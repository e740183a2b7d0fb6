import RaceLink.Routing.Addresses
import RaceLink.Runner.Cost

/-! Where the frames of a scene with an explicit network scope go.

A run adds frames, each of which a sender gave for an op of an action, under the
attributes that are in force for that action (`runScene_sends`). What the check at the
time of saving says of the targets, and what the attributes say of broadcasts, then
decides which transports the frame can be on (`explicit_scope_confines`). -/
namespace RaceLink.Runner
open Python Library Domain Protocol Scenes Dispatch Routing

/-! ### The runner's environment -/

/-- `_known_group_ids`. -/
def knownGroupIds (h : Host) : List Int :=
  sortIds (keepFirst id [] ((h.devices.map (·.groupId)).filter fun g => 0 ≤ g ∧ g ≤ 254))

/-- `_planner_inputs`, over what the preset store answers. -/
def plannerInputs (presetLookup : Option (Json → Option Preset)) (h : Host) : PlannerInputs :=
  ⟨knownGroupIds h, presetLookup, h.getDeviceFromAddress⟩

/-! ### Frames of a run -/

/-- A part of a run leaves the repositories alone and adds frames that are all `P`. -/
structure Sends (P : Frame → Prop) (s t : RunState World) : Prop where
  host : t.world.host = s.world.host
  frames : ∃ new, t.world.frames = s.world.frames ++ new ∧ ∀ f ∈ new, P f

section Sends
variable {P : Frame → Prop} {s t u : RunState World}

theorem Sends.refl (P : Frame → Prop) (s : RunState World) : Sends P s s := ⟨rfl, [], by simp, by simp⟩

theorem Sends.trans (h : Sends P s t) (h' : Sends P t u) : Sends P s u := by
  obtain ⟨new, hnew, hP⟩ := h.frames
  obtain ⟨new', hnew', hP'⟩ := h'.frames
  refine ⟨h'.host.trans h.host, new ++ new', by rw [hnew', hnew, List.append_assoc], fun f hf => ?_⟩
  exact (List.mem_append.mp hf).elim (hP f) (hP' f)

theorem Sends.of_world (h : t.world = s.world) : Sends P s t :=
  ⟨by rw [h], [], by simp [h], by simp⟩

theorem Sends.mono {Q : Frame → Prop} (h : Sends P s t) (hPQ : ∀ f, P f → Q f) : Sends Q s t := by
  obtain ⟨new, hnew, hP⟩ := h.frames
  exact ⟨h.host, new, hnew, fun f hf => hPQ f (hP f hf)⟩

end Sends

/-- The attributes in force while an action is executed: a container over groups has its own. -/
def attrsFor (h : Host) (attrs : ScopeAttrs) : Action → ScopeAttrs
  | .offsetGroup .broadcast _ _ => attrs
  | .offsetGroup target _ _ => ⟨broadcastTarget (networkIdsForTarget h none target), false⟩
  | _ => attrs

/-- A frame of an op that is not blocked. -/
def SentFrom (env : Environment) (h : Host) (attrs : ScopeAttrs) (op : WireOp) (f : Frame) : Prop :=
  broadcastBlocked attrs op = false ∧
    ∃ w : World, w.host = h ∧ f ∈ (sendOp env (targetForOp attrs op) op w).frames

/-- A frame that is sent for an action. -/
def SentFor (env : Environment) (h : Host) (attrs : ScopeAttrs) (action : Action) (f : Frame) : Prop :=
  ∃ plan op, planActionDispatch (env.inputs h) action = .ok plan ∧ op ∈ plan.ops ∧
    SentFrom env h (attrsFor h attrs action) op f

section Run
variable (env : Environment) (progress : Option (Event → Except PyError Unit)) {h : Host}

theorem dispatchOp_sends (index : Nat) (op : WireOp) {s : RunState World} (hs : s.world.host = h) :
    Sends (SentFrom env h s.attrs op) s (dispatchOp (services env progress) index op s).2 := by
  unfold dispatchOp
  dsimp only
  split
  · exact .of_world rfl
  · next hfree =>
    exact ⟨rfl, _, rfl, fun f hf => ⟨Bool.eq_false_iff.mpr hfree, s.world, hs, hf⟩⟩

theorem executeOps_sends (index : Nat) (ops : List WireOp) {s : RunState World}
    (hs : s.world.host = h) :
    Sends (fun f => ∃ op ∈ ops, SentFrom env h s.attrs op f) s
      (executeOps (services env progress) index ops s).2 := by
  induction ops generalizing s with
  | nil => exact .refl _ s
  | cons op rest ih =>
    have hfirst : Sends (fun f => ∃ op' ∈ op :: rest, SentFrom env h s.attrs op' f) s
        (dispatchOp (services env progress) index op s).2 :=
      (dispatchOp_sends env progress index op hs).mono fun f hf => ⟨op, List.mem_cons_self .., hf⟩
    refine andThen_state (I := Sends _ s) hfirst fun ok _ => hfirst.trans ?_
    have hattrs := (dispatchOp_enclosed (services env progress) index op s).attrs
    refine (andThen_answer (I := Sends _ _) (ih (hfirst.host.trans hs))).mono ?_
    rintro f ⟨op', hop', hsent⟩
    rw [hattrs] at hsent
    exact ⟨op', List.mem_cons_of_mem _ hop', hsent⟩

theorem executePlan_sends (index : Nat) (kind : String) (plan : ActionDispatchPlan) {s : RunState World}
    (hs : s.world.host = h) :
    Sends (fun f => ∃ op ∈ plan.ops, SentFrom env h s.attrs op f) s
      (executePlan (services env progress) index kind plan s).2 := by
  unfold executePlan
  split
  · exact .refl _ s
  · exact andThen_answer (executeOps_sends env progress index plan.ops hs)

theorem executeContainer_sends (index : Nat) (target : Target) (offset : OffsetBlock)
    (actions : List Effect) (plan : ActionDispatchPlan) {s : RunState World} (hs : s.world.host = h) :
    Sends (fun f => ∃ op ∈ plan.ops,
        SentFrom env h (attrsFor h s.attrs (.offsetGroup target offset actions)) op f) s
      (executeContainer (services env progress) index target plan s).2 := by
  have hattrs : (enterContainer (narrowedAttrs (services env progress) s.world target) s).attrs =
      attrsFor h s.attrs (.offsetGroup target offset actions) := by
    subst hs
    cases target <;> rfl
  obtain ⟨hhost, hframes⟩ := executePlan_sends env progress index "offset_group" plan
    (s := enterContainer (narrowedAttrs (services env progress) s.world target) s) hs
  rw [hattrs] at hframes
  exact ⟨hhost, hframes⟩

/-- **The frames of an action are sent for it, under the attributes in force for it.** -/
theorem runAction_sends (index : Nat) (action : Action) {s : RunState World} (hs : s.world.host = h) :
    Sends (SentFor env h s.attrs action) s (runAction (services env progress) index action s).2 := by
  have hplanned : ∀ kind (plan : ActionDispatchPlan), planActionDispatch (env.inputs h) action = .ok plan →
      attrsFor h s.attrs action = s.attrs →
      Sends (SentFor env h s.attrs action) s (executePlan (services env progress) index kind plan s).2 := by
    intro kind plan hplan hattrs
    refine (executePlan_sends env progress index kind plan hs).mono ?_
    rintro f ⟨op, hop, hsent⟩
    exact ⟨plan, op, hplan, hop, by rwa [hattrs]⟩
  have hinputs : (services env progress).plannerInputs s.world = env.inputs h := by rw [← hs]; rfl
  cases action with
  | delay durationMs => exact andThen_answer (Sends.of_world rfl)
  | sync => exact hplanned "sync" planSync rfl rfl
  | offsetGroup target offset actions =>
    dsimp only [runAction]
    rw [hinputs]
    split
    · exact .refl _ s
    · next plan hplan =>
      refine (executeContainer_sends env progress index target offset actions plan hs).mono ?_
      rintro f ⟨op, hop, hsent⟩
      exact ⟨plan, op, hplan, hop, hsent⟩
  | effect e =>
    dsimp only [runAction]
    rw [hinputs]
    split
    · exact .refl _ s
    · next plan hplan => exact hplanned e.kind.name plan hplan rfl
  | startblock target params =>
    dsimp only [runAction]
    rw [hinputs]
    split
    · exact .refl _ s
    · next plan hplan => exact hplanned "startblock" plan hplan rfl

theorem emitProgress_sends (P : Frame → Prop) (event : Event) (s : RunState World) :
    Sends P s (emitProgress (services env progress) event s) := by
  unfold emitProgress
  split
  · exact .refl _ s
  · next callback hcallback =>
    refine .of_world ?_
    cases progress with
    | none => cases hcallback
    | some f =>
      cases hcallback
      rfl

theorem emitProgress_attrs (event : Event) (s : RunState World) :
    (emitProgress (services env progress) event s).attrs = s.attrs := by
  unfold emitProgress
  split <;> rfl

theorem runOne_sends (sceneKey : String) (index : Nat) (action : Action) {s : RunState World}
    (hs : s.world.host = h) :
    Sends (SentFor env h s.attrs action) s
      (runOne (services env progress) sceneKey index action s).2 := by
  have hstart := emitProgress_sends env progress (SentFor env h s.attrs action)
    ⟨sceneKey, index, kindOf action, .started, none⟩ s
  have hdispatch : ∀ s' : RunState World, s'.world.host = h → s'.attrs = s.attrs →
      Sends (SentFor env h s.attrs action) s' (dispatch (services env progress) index action s').2 := by
    intro s' hs' hattrs
    have hrun := runAction_sends env progress index action hs'
    rw [hattrs] at hrun
    unfold dispatch
    split
    · next heq =>
      rw [heq] at hrun
      exact hrun
    · next heq =>
      rw [heq] at hrun
      exact hrun
  exact (hstart.trans (hdispatch _ (hstart.host.trans hs) (emitProgress_attrs env progress _ s))).trans
    (emitProgress_sends env progress _ _ _)

theorem skipRest_sends (P : Frame → Prop) (sceneKey : String) (index : Nat) (actions : List Action)
    (s : RunState World) : Sends P s (skipRest (services env progress) sceneKey index actions s).2 := by
  induction actions generalizing index s with
  | nil => exact .refl _ s
  | cons action rest ih => exact (emitProgress_sends env progress P _ s).trans (ih _ _)

theorem runActions_sends (sceneKey : String) (stopOnError : Bool) (index : Nat) (actions : List Action)
    {s : RunState World} (hs : s.world.host = h) :
    Sends (fun f => ∃ action ∈ actions, SentFor env h s.attrs action f) s
      (runActions (services env progress) sceneKey stopOnError index actions s).2 := by
  induction actions generalizing index s with
  | nil => exact .refl _ s
  | cons action rest ih =>
    have hone := (runOne_sends env progress sceneKey index action hs).mono
      (Q := fun f => ∃ a ∈ action :: rest, SentFor env h s.attrs a f)
      fun f hf => ⟨action, List.mem_cons_self .., hf⟩
    have hattrs := (runOne_spec (services env progress) sceneKey index action s).2.2.attrs
    unfold runActions
    dsimp only
    split
    · exact hone.trans (skipRest_sends env progress _ _ _ _ _)
    · refine hone.trans ((ih (index + 1) (hone.host.trans hs)).mono ?_)
      rintro f ⟨a, ha, hsent⟩
      rw [hattrs] at hsent
      exact ⟨a, List.mem_cons_of_mem _ ha, hsent⟩

/-- **The frames of a run are sent for its actions, under the attributes of the scene.** -/
theorem runScene_sends (sceneKey : String) (scene : Scene) {s : RunState World}
    (hs : s.world.host = h) :
    Sends (fun f => ∃ action ∈ scene.actions,
        SentFor env h (sceneAttrs scene.networkScope (sceneNetworkIds h scene)) action f) s
      (runScene (services env progress) sceneKey scene s).2 := by
  subst hs
  obtain ⟨hhost, hframes⟩ := runActions_sends env progress sceneKey
    scene.stopOnError 0 scene.actions
    (s := installScope (sceneAttrs scene.networkScope (sceneNetworkIds s.world.host scene)) s) rfl
  exact ⟨hhost, hframes⟩

end Run

/-! ### What an op is for -/

/-- A destination that a target of the action resolves to. -/
def Aimed (inputs : PlannerInputs) (action : Action) (d : Destination) : Prop :=
  ∃ target ∈ Action.targets action, ∃ destinations,
    resolveTarget inputs.deviceLookup target = some destinations ∧ d ∈ destinations

/-- The sync of a sync action; a setup frame of a container, to all, to a group it names or to one that is known;
or a frame for a target, in a stream if the action is one. -/
inductive Origin (inputs : PlannerInputs) : Action → WireOp → Prop where
  | sync {op : WireOp} (brightness : Int) (triggerArmed : Bool) (hgroup : op.targetGroup = 255)
      (hpayload : op.payload = .sync brightness triggerArmed) : Origin inputs .sync op
  | setup {target : Target} {offset : OffsetBlock} {actions : List Effect} {op : WireOp}
      (config : OffsetConfig) (hpayload : op.payload = .offset config)
      (hgroup : op.targetGroup = 255 ∨ (∃ value, target = .groups value ∧ op.targetGroup ∈ value) ∨
        op.targetGroup ∈ inputs.known) :
      Origin inputs (.offsetGroup target offset actions) op
  | aimed {action : Action} {op : WireOp} (kind : Option EffectKind) (params : Dict) (d : Destination)
      (hgroup : op.targetGroup = targetGroupForOp d)
      (hpayload : op.payload = effectSend kind params d) (haimed : Aimed inputs action d)
      (hkind : kind = none → ∃ target params, action = .startblock target params) :
      Origin inputs action op

theorem planEffect_origin {inputs : PlannerInputs} {kind : Option EffectKind} {target : Target}
    {params : Dict} {flagsOverride : FlagsOverride} {force : Option Bool} {p : ActionDispatchPlan}
    {action : Action} (h : planEffect inputs kind target params flagsOverride force = .ok p)
    (htarget : target ∈ Action.targets action)
    (hkind : kind = none → ∃ target params, action = .startblock target params) :
    ∀ op ∈ p.ops, Origin inputs action op := by
  obtain ⟨-, hempty, hplanned⟩ := planEffect_ok h
  intro op hop
  cases hdegraded : p.degraded with
  | true =>
    rw [hempty hdegraded] at hop
    cases hop
  | false =>
    obtain ⟨destinations, preset, hresolved, -, hall⟩ := (hplanned hdegraded).destinations
    obtain ⟨d, hd, hbuild⟩ := exists_of_forall₂_right hall hop
    obtain ⟨hgroup, hpayload⟩ := buildEffectOp_ok hbuild
    exact .aimed kind _ d hgroup hpayload ⟨target, htarget, destinations, hresolved, hd⟩ hkind

theorem planOffsetGroup_origin {inputs : PlannerInputs} {target : Target} {offset : OffsetBlock}
    {actions : List Effect} {plan : ActionDispatchPlan}
    (h : planOffsetGroup inputs target offset actions = .ok plan) :
    ∀ op ∈ plan.ops, Origin inputs (.offsetGroup target offset actions) op := by
  obtain ⟨setup, childPlans, hsetup, hall, hops, -, -⟩ := planOffsetGroup_ok h
  intro op hop
  rw [hops, List.mem_append] at hop
  rcases hop with hop | hop
  · obtain ⟨op', hop', rfl⟩ := mem_tagOps.mp hop
    cases target with
    | device value => cases hsetup
    | broadcast =>
      cases hsetup
      obtain ⟨gid, config, rfl, hgid⟩ := choosePlan_ops hop'
      exact .setup (offsetPayloadKwargs config) rfl
        (hgid.imp_right fun h => .inr (h.resolve_left List.not_mem_nil))
    | groups value =>
      cases hsetup
      obtain ⟨gid, config, rfl, hgid⟩ := choosePlan_ops hop'
      exact .setup (offsetPayloadKwargs config) rfl (hgid.imp_right (.imp_left fun h => ⟨value, rfl, h⟩))
  · obtain ⟨i, p, hp, hop⟩ := mem_childOps.mp hop
    obtain ⟨op', hop', rfl⟩ := mem_tagOps.mp hop
    obtain ⟨e, he, hplan⟩ := exists_of_forall₂_right hall (List.mem_of_getElem? hp)
    have htarget : e.target ∈ Action.targets (.offsetGroup target offset actions) :=
      List.mem_cons_of_mem _ (List.mem_map_of_mem he)
    cases planEffect_origin hplan htarget (fun hnone => by cases hnone) op' hop' with
    | setup config hpayload hgroup => exact .setup config hpayload hgroup
    | aimed kind params d hgroup hpayload haimed hkind => exact .aimed kind params d hgroup hpayload haimed hkind

/-- **Every op of a plan has an origin in its action.** -/
theorem planActionDispatch_origin {inputs : PlannerInputs} {action : Action} {plan : ActionDispatchPlan}
    (h : planActionDispatch inputs action = .ok plan) : ∀ op ∈ plan.ops, Origin inputs action op := by
  cases action with
  | delay durationMs =>
    cases h
    simp
  | sync =>
    cases h
    intro op hop
    obtain rfl := List.mem_singleton.mp hop
    exact .sync 0 true rfl rfl
  | effect e => exact planEffect_origin h (List.mem_singleton_self _) fun hnone => by cases hnone
  | startblock target params => exact planEffect_origin h (List.mem_singleton_self _) fun _ => ⟨target, params, rfl⟩
  | offsetGroup target offset actions => exact planOffsetGroup_origin h

/-! ### Where the frame of an op is -/

/-- The frame of an op that is for a destination. -/
structure FrameFor (h : Host) (target : Option (List String)) (d : Destination) (f : Frame) : Prop where
  destination : f.destination = some d
  opcode : f.opcode ≠ .sync
  route : f.opcode ≠ .stream → f.transport ∈ routes h d target
  stream : f.opcode = .stream → transportForStream h d = some f.transport

theorem sendTo_frameFor {h : Host} {opcode : Opcode} {build : Int → Except PyError Bytes}
    {d : Destination} {target : Option (List String)} {f : Frame}
    (hf : f ∈ (sendTo h opcode build d target).frames) (hsync : opcode ≠ .sync)
    (hstream : opcode ≠ .stream) : FrameFor h target d f := by
  obtain ⟨hroute, rfl, hdestination⟩ := sendTo_routes hf
  exact ⟨hdestination, hsync, fun _ => hroute, fun h => absurd h hstream⟩

theorem sendStartblock_frameFor {streams : Host → Dict → Destination → Except PyError Unit × List Bytes}
    {h : Host} {params : Dict} {d : Destination} {target : Option (List String)} {f : Frame}
    (hf : f ∈ (sendStartblock streams h params d).frames) : FrameFor h target d f := by
  unfold sendStartblock at hf
  split at hf
  · next first t hfirst ht =>
    obtain ⟨payload, -, hsend⟩ := List.mem_filterMap.mp hf
    cases hrecv : streamRecv3 d with
    | error e =>
      rw [hrecv] at hsend
      cases hsend
    | ok recv3 =>
      rw [hrecv, ok_bind] at hsend
      cases hsent : sendM2n .stream (some d) recv3 payload t with
      | error e =>
        rw [hsent] at hsend
        cases hsend
      | ok frame =>
        rw [hsent] at hsend
        cases hsend
        rw [sendM2n_ok hsent]
        exact ⟨rfl, nofun, fun h => absurd rfl h, fun _ => ht⟩
  · cases hf

theorem sendOp_offset {env : Environment} {target : Option (List String)} {op : WireOp}
    {config : OffsetConfig} (hpayload : op.payload = .offset config) {w : World} {f : Frame}
    (hf : f ∈ (sendOp env target op w).frames) :
    FrameFor w.host target (.group op.targetGroup) f ∧ f.opcode = .offset := by
  rw [sendOp, hpayload] at hf
  dsimp only [sendOffset] at hf
  exact ⟨sendTo_frameFor hf nofun nofun, (sendTo_routes hf).2.1⟩

theorem sendOp_effect {env : Environment} {target : Option (List String)} {op : WireOp}
    {kind : Option EffectKind} {params : Dict} {d : Destination}
    (hpayload : op.payload = effectSend kind params d) {w : World} {f : Frame}
    (hf : f ∈ (sendOp env target op w).frames) : FrameFor w.host target d f := by
  have hcontrol : f ∈ (sendControl w.host params d target).frames → FrameFor w.host target d f := by
    intro hf
    unfold sendControl at hf
    split at hf
    · cases hf
    · split at hf
      · cases hf
      · exact sendTo_frameFor hf nofun nofun
  have hpreset : f ∈ (sendWledPreset w.host params d target).frames → FrameFor w.host target d f := by
    intro hf
    unfold sendWledPreset at hf
    split at hf
    · cases hf
    · exact sendTo_frameFor hf nofun nofun
  rw [sendOp, hpayload] at hf
  cases kind with
  | none => exact sendStartblock_frameFor hf
  | some kind =>
    cases kind with
    | wledPreset => exact hpreset hf
    | rlPreset => exact hcontrol hf
    | rlEffect => exact hcontrol hf

/-- Only a startblock is streamed. -/
theorem sendOp_not_stream {env : Environment} {target : Option (List String)} {op : WireOp}
    {kind : EffectKind} {params : Dict} {d : Destination}
    (hpayload : op.payload = effectSend (some kind) params d) {w : World} {f : Frame}
    (hf : f ∈ (sendOp env target op w).frames) : f.opcode ≠ .stream := by
  have hcontrol : f ∈ (sendControl w.host params d target).frames → f.opcode = .control := by
    intro hf
    unfold sendControl at hf
    split at hf
    · cases hf
    · split at hf
      · cases hf
      · exact (sendTo_routes hf).2.1
  have hpreset : f ∈ (sendWledPreset w.host params d target).frames → f.opcode = .preset := by
    intro hf
    unfold sendWledPreset at hf
    split at hf
    · cases hf
    · exact (sendTo_routes hf).2.1
  rw [sendOp, hpayload] at hf
  cases kind with
  | wledPreset => rw [hpreset hf]; nofun
  | rlPreset => rw [hcontrol hf]; nofun
  | rlEffect => rw [hcontrol hf]; nofun

theorem sendOp_sync {env : Environment} {target : Option (List String)} {op : WireOp}
    {brightness : Int} {triggerArmed : Bool} (hpayload : op.payload = .sync brightness triggerArmed)
    {w : World} {f : Frame} (hf : f ∈ (sendOp env target op w).frames) :
    f.transport ∈ w.host.resolveBroadcastTransports target ∧ f.destination = none := by
  rw [sendOp, hpayload] at hf
  dsimp only [sendSync] at hf
  split at hf
  · cases hf
  · obtain ⟨t, ht, hsend⟩ := mem_broadcastFanout.mp hf
    rw [sendM2n_ok hsend]
    exact ⟨ht, rfl⟩

/-! ### The transports of a scope -/

/-- The only transport attached, or that of a listed network. -/
def Served (h : Host) (scope : List String) (t : Transport) : Prop :=
  h.transports = [t] ∨ ∃ networkId ∈ scope, h.Carries networkId t

section Served
variable {h : Host} {scope : List String} {t : Transport}

theorem served_fanOut {networkIds : List String} (hids : ∀ networkId ∈ networkIds, networkId ∈ scope)
    (ht : t ∈ h.resolveBroadcastTransports (some networkIds)) : Served h scope t := by
  obtain ⟨-, networkId, hmem, hroute⟩ := routesOf_spec.2 t ht
  exact (transportForNetwork_routes hroute).imp_right fun hcarries => ⟨networkId, hids networkId hmem, hcarries⟩

/-- A network that a transport is found for has an id. -/
theorem transportForNetwork_nonEmpty {networkId : Option String}
    (ht : h.transportForNetwork networkId = some t) : ∃ id, nonEmpty networkId = some id := by
  cases hid : nonEmpty networkId with
  | none =>
    rw [Host.transportForNetwork, hid] at ht
    cases ht
  | some id => exact ⟨id, rfl⟩

theorem served_network {networkId : Option String} (ht : h.transportForNetwork networkId = some t)
    (hid : ∀ id, nonEmpty networkId = some id → id ∈ scope) : Served h scope t := by
  obtain ⟨id, hne⟩ := transportForNetwork_nonEmpty ht
  rw [(nonEmpty_some.mp hne).1] at ht
  exact (transportForNetwork_routes ht).imp_right fun hcarries => ⟨id, hid id hne, hcarries⟩

/-- The transport of a group that a target in scope names. -/
theorem served_group {value : List Int} {groupId : Int} (hscope : InScope h scope (.groups value))
    (hgroup : groupId ∈ value) (ht : h.transportForGroup groupId = some t) : Served h scope t := by
  unfold Host.transportForGroup at ht
  rcases Option.or_eq_some_iff.mp ht with hroute | ⟨-, hroute⟩
  · obtain ⟨g, hg, hroute⟩ := Option.bind_eq_some_iff.mp hroute
    refine served_network hroute fun id hid => hscope nofun id ?_
    refine List.mem_filterMap.mpr ⟨groupId, hgroup, ?_⟩
    rw [networkIdFromGroup, hg]
    exact hid
  · exact .inl (onlyTransport_eq hroute)

theorem transportForGroup_mod (h : Host) (groupId : Int) :
    h.transportForGroup (groupId % 256) = h.transportForGroup groupId := by
  rw [Host.transportForGroup, Host.groupById, Int.emod_emod_of_dvd _ (Int.dvd_refl _)]
  rfl

/-- The transport of a device that a target in scope names. -/
theorem served_device {value : String} {d : Device} (hmac : isMac12 value = true)
    (hscope : InScope h scope (.device value)) (hd : h.getDeviceFromAddress value = some d)
    (ht : h.transportForDevice d.addr = some t) : Served h scope t := by
  rw [Host.transportForDevice, getDeviceFromAddress_self hmac hd, Option.bind_some] at ht
  refine served_network ht fun id hid => hscope nofun id ?_
  have hne : value ≠ "" := by
    rintro rfl
    exact absurd hmac (by decide)
  have hby : h.deviceByAddr value = some d := by
    have hfixed := mac12_fixed hmac
    rw [← hd, getDeviceFromAddress_mac (by rwa [hfixed]), Host.deviceByAddr, hfixed,
      if_pos (mac12_length hmac)]
  have hfrom : networkIdFromDevice h value = some id := by
    rw [networkIdFromDevice, hby, Option.some_or, Option.bind_some]
    exact hid
  rw [networkIdsForTarget, if_neg hne, hfrom]
  exact List.mem_singleton_self id

end Served

/-! ### The frames of an action in scope -/

/-- What no scope holds: a frame for a group that has no route; a stream to all, or to a device that has no route;
a broadcast of a container whose groups are on no network; and the setup of a group that a container does not
name. -/
inductive Unscoped (h : Host) (action : Action) (f : Frame) : Prop where
  | unrouted (groupId : Int) (hd : f.destination = some (.group groupId)) (hgroup : groupId ≠ 255)
      (hroute : h.transportForGroup groupId = none)
  | streamed (hopcode : f.opcode = .stream) (hd : f.destination = some (.group 255) ∨
      ∃ d, f.destination = some (.device d) ∧ h.transportForDevice d.addr = none)
  | placeless {target : Target} {offset : OffsetBlock} {actions : List Effect}
      (haction : action = .offsetGroup target offset actions) (htarget : target ≠ .broadcast)
      (hids : networkIdsForTarget h none target = []) (hd : f.destination = some (.group 255))
  | setup {target : Target} {offset : OffsetBlock} {actions : List Effect}
      (haction : action = .offsetGroup target offset actions) (hopcode : f.opcode = .offset) (groupId : Int)
      (hd : f.destination = some (.group groupId)) (hgroup : groupId ≠ 255) (hknown : groupId ∈ knownGroupIds h)
      (hunnamed : ∀ value, target = .groups value → groupId ∉ value)

/-- **A frame keeps to a scope**, unless it is one of those that no scope holds. -/
def Confined (h : Host) (scope : List String) (action : Action) (f : Frame) : Prop :=
  Served h scope f.transport ∨ Unscoped h action f

/-- A frame that is neither a sync nor a broadcast, or the broadcast of a container that is over groups, and then
on a transport of their networks if they have any. -/
def NotScoped (h : Host) (action : Action) (f : Frame) : Prop :=
  f.opcode ≠ .sync ∧ (f.destination = some (.group 255) →
    ∃ target offset actions, action = .offsetGroup target offset actions ∧ target ≠ .broadcast ∧
      (networkIdsForTarget h none target = [] ∨ Served h (networkIdsForTarget h none target) f.transport))

section Confined
variable {env : Environment} {h : Host} {scope : List String} {attrs : ScopeAttrs} {action : Action}
  {op : WireOp} {f : Frame}

/-- The broadcasts of a container over groups go to their networks. -/
theorem attrsFor_narrowed {target : Target} {offset : OffsetBlock} {actions : List Effect}
    (htarget : target ≠ .broadcast) (hids : networkIdsForTarget h none target ≠ []) :
    ∃ ids, (attrsFor h attrs (.offsetGroup target offset actions)).scope = some ids ∧
      ∀ id ∈ ids, id ∈ networkIdsForTarget h none target := by
  have hscope : (attrsFor h attrs (.offsetGroup target offset actions)).scope =
      broadcastTarget (networkIdsForTarget h none target) := by
    cases target with
    | broadcast => exact absurd rfl htarget
    | groups value => rfl
    | device value => rfl
  rw [hscope, broadcastTarget, if_neg hids]
  exact ⟨_, rfl, fun id hid => mem_keepFirst_id.mp hid⟩

/-- What the attributes say of an action: its broadcasts go to listed networks, if they have any to go to. -/
theorem attrsFor_scope (hattrs : ∃ ids, attrs.scope = some ids ∧ ∀ id ∈ ids, id ∈ scope)
    (htargets : ∀ target ∈ Action.targets action, InScope h scope target) :
    (∃ ids, (attrsFor h attrs action).scope = some ids ∧ ∀ id ∈ ids, id ∈ scope) ∨
      ∃ target offset actions, action = .offsetGroup target offset actions ∧ target ≠ .broadcast ∧
        networkIdsForTarget h none target = [] := by
  cases action with
  | offsetGroup target offset actions =>
    by_cases htarget : target = .broadcast
    · subst htarget
      exact .inl hattrs
    · by_cases hids : networkIdsForTarget h none target = []
      · exact .inr ⟨target, offset, actions, rfl, htarget, hids⟩
      · have hnarrowed : ∃ ids, (attrsFor h attrs (.offsetGroup target offset actions)).scope = some ids ∧
            ∀ id ∈ ids, id ∈ networkIdsForTarget h none target := attrsFor_narrowed htarget hids
        obtain ⟨ids, hscope, hall⟩ := hnarrowed
        exact .inl ⟨ids, hscope, fun id hid => htargets target (List.mem_cons_self ..) htarget id (hall id hid)⟩
  | _ => exact .inl hattrs

/-- The frame of an op for a destination in scope. -/
theorem served_frameFor {d : Destination} {target : Option (List String)} (hf : FrameFor h target d f)
    (hstream : f.opcode ≠ .stream) (hd : d = .group 255)
    (htarget : ∃ ids, target = some ids ∧ ∀ id ∈ ids, id ∈ scope) : Served h scope f.transport := by
  obtain ⟨ids, rfl, hids⟩ := htarget
  subst hd
  exact served_fanOut hids (hf.route hstream)

/-- The frame for a group goes over the group's transport, if it has one. -/
theorem FrameFor.group {groupId : Int} (hf : FrameFor h none (.group groupId) f)
    (hsome : (h.transportForGroup groupId).isSome) : h.transportForGroup groupId = some f.transport := by
  obtain ⟨t, ht⟩ := Option.isSome_iff_exists.mp hsome
  by_cases hstream : f.opcode = .stream
  · have hroute := hf.stream hstream
    rw [transportForStream, ht, Option.some_or] at hroute
    rw [ht, hroute]
  · have hroute := hf.route hstream
    rw [routes, Host.transportForGroupSend, transportForGroup_mod, ht, Option.some_or] at hroute
    rw [ht, List.mem_singleton.mp hroute]

/-- The frame for a device goes over the device's transport, or over the only one. -/
theorem FrameFor.device {d : Device} {target : Option (List String)} (hf : FrameFor h target (.device d) f)
    (hsome : f.opcode = .stream → (h.transportForDevice d.addr).isSome) :
    h.transports = [f.transport] ∨ h.transportForDevice d.addr = some f.transport := by
  by_cases hstream : f.opcode = .stream
  · obtain ⟨t, ht⟩ := Option.isSome_iff_exists.mp (hsome hstream)
    have hroute := hf.stream hstream
    rw [transportForStream, ht, Option.some_or] at hroute
    exact .inr (by rw [ht, hroute])
  · have hroute := hf.route hstream
    cases target <;> exact transportForDeviceSend_routes (Option.mem_toList.mp hroute)

theorem targetForOp_broadcast (hgroup : op.targetGroup = 255) : targetForOp attrs op = attrs.scope := by
  unfold targetForOp
  split
  · rfl
  · exact if_pos hgroup

theorem targetForOp_group (hgroup : op.targetGroup ≠ 255)
    (hsync : ∀ brightness triggerArmed, op.payload ≠ .sync brightness triggerArmed) :
    targetForOp attrs op = none := by
  unfold targetForOp
  split
  · next hpayload => exact absurd hpayload (hsync _ _)
  · exact if_neg hgroup

/-- The frame of an op whose destination is its group. -/
theorem confined_group {groupId : Int} {target : Option (List String)}
    (hf : FrameFor h target (.group groupId) f) (hbroadcast : groupId = 255 → target = attrs.scope)
    (hgroup : groupId ≠ 255 → target = none)
    (htargets : ∀ target ∈ Action.targets action, InScope h scope target)
    (hattrs : (∃ ids, attrs.scope = some ids ∧ ∀ id ∈ ids, id ∈ scope) ∨
      ∃ target offset actions, action = .offsetGroup target offset actions ∧ target ≠ .broadcast ∧
        networkIdsForTarget h none target = [])
    (hnamed : groupId ≠ 255 → (∃ value, .groups value ∈ Action.targets action ∧ groupId ∈ value) ∨
      Unscoped h action f) : Confined h scope action f := by
  by_cases hall : groupId = 255
  · subst hall
    by_cases hstream : f.opcode = .stream
    · exact .inr (.streamed hstream (.inl hf.destination))
    · rcases hattrs with hscope | ⟨target, offset, actions, haction, htarget, hids⟩
      · exact .inl (served_frameFor hf hstream rfl (hbroadcast rfl ▸ hscope))
      · exact .inr (.placeless haction htarget hids hf.destination)
  · rw [hgroup hall] at hf
    cases hroute : h.transportForGroup groupId with
    | none => exact .inr (.unrouted groupId hf.destination hall hroute)
    | some t =>
      rcases hnamed hall with ⟨value, hvalue, hgid⟩ | hunscoped
      · exact .inl (served_group (htargets _ hvalue) hgid (hf.group (by rw [hroute]; rfl)))
      · exact .inr hunscoped

/-- A destination that is a group is named by the action. -/
theorem aimed_group {inputs : PlannerInputs} {groupId : Int} (haimed : Aimed inputs action (.group groupId))
    (hne : groupId ≠ 255) : ∃ value, .groups value ∈ Action.targets action ∧ groupId ∈ value := by
  obtain ⟨target, htarget, destinations, hresolved, hmem⟩ := haimed
  cases target with
  | broadcast =>
    cases hresolved
    simp [hne] at hmem
  | groups value =>
    cases value with
    | nil => cases hresolved
    | cons first rest =>
      cases hresolved
      exact ⟨_, htarget, by simpa using hmem⟩
  | device addr =>
    obtain ⟨d, -, rfl⟩ := Option.map_eq_some_iff.mp hresolved
    simp at hmem

/-- A destination that is a device is the one an action names. -/
theorem aimed_device {inputs : PlannerInputs} {d : Device} (haimed : Aimed inputs action (.device d)) :
    ∃ addr, .device addr ∈ Action.targets action ∧ inputs.deviceLookup addr = some d := by
  obtain ⟨target, htarget, destinations, hresolved, hmem⟩ := haimed
  cases target with
  | broadcast =>
    cases hresolved
    simp at hmem
  | groups value =>
    cases value with
    | nil => cases hresolved
    | cons first rest =>
      cases hresolved
      simp at hmem
  | device addr =>
    obtain ⟨d', hd', rfl⟩ := Option.map_eq_some_iff.mp hresolved
    cases List.mem_singleton.mp hmem
    exact ⟨addr, htarget, hd'⟩

theorem effectSend_not_sync {kind : Option EffectKind} {params : Dict} {d : Destination} {brightness : Int}
    {triggerArmed : Bool} : effectSend kind params d ≠ .sync brightness triggerArmed := by
  cases kind with
  | none => nofun
  | some kind => cases kind <;> nofun

/-- **The frames that are sent for an action in scope are confined to it.** -/
theorem confined_of_sentFor (hlookup : (env.inputs h).deviceLookup = h.getDeviceFromAddress)
    (hknown : (env.inputs h).known = knownGroupIds h)
    (hvalid : ∀ target ∈ Action.targets action, target.Valid)
    (htargets : ∀ target ∈ Action.targets action, InScope h scope target)
    (hattrs : ∃ ids, attrs.scope = some ids ∧ ∀ id ∈ ids, id ∈ scope)
    (hsent : SentFor env h attrs action f) : Confined h scope action f := by
  obtain ⟨plan, op, hplan, hop, -, w, rfl, hf⟩ := hsent
  cases planActionDispatch_origin hplan op hop with
  | sync brightness triggerArmed hgroup hpayload =>
    obtain ⟨ids, hscope, hids⟩ := hattrs
    have hroute := (sendOp_sync hpayload hf).1
    rw [targetForOp_broadcast hgroup, show attrsFor w.host attrs .sync = attrs from rfl, hscope] at hroute
    exact .inl (served_fanOut hids hroute)
  | @setup target offset actions _ config hpayload hgroup =>
    obtain ⟨hframe, hopcode⟩ := sendOp_offset hpayload hf
    refine confined_group hframe targetForOp_broadcast
      (fun hne => targetForOp_group hne fun _ _ h => by rw [hpayload] at h; cases h) htargets
      (attrsFor_scope hattrs htargets) fun hne => ?_
    rcases hgroup.resolve_left hne with ⟨value, rfl, hvalue⟩ | hknown'
    · exact .inl ⟨value, List.mem_cons_self .., hvalue⟩
    · by_cases hnamed : ∃ value, target = .groups value ∧ op.targetGroup ∈ value
      · obtain ⟨value, rfl, hvalue⟩ := hnamed
        exact .inl ⟨value, List.mem_cons_self .., hvalue⟩
      · exact .inr (.setup rfl hopcode op.targetGroup hframe.destination hne (hknown ▸ hknown')
          fun value htarget hmem => hnamed ⟨value, htarget, hmem⟩)
  | aimed kind params d hgroup hpayload haimed hkind =>
    have hframe := sendOp_effect hpayload hf
    cases d with
    | group groupId =>
      exact confined_group hframe (fun h => targetForOp_broadcast (hgroup.trans h))
        (fun hne => targetForOp_group (by rwa [hgroup]) fun _ _ h => effectSend_not_sync (hpayload.symm.trans h))
        htargets (attrsFor_scope hattrs htargets) fun hne => .inl (aimed_group haimed hne)
    | device d =>
      by_cases hlost : f.opcode = .stream ∧ w.host.transportForDevice d.addr = none
      · exact .inr (.streamed hlost.1 (.inr ⟨d, hframe.destination, hlost.2⟩))
      · have hsome : f.opcode = .stream → (w.host.transportForDevice d.addr).isSome := fun hstream =>
          Option.isSome_iff_ne_none.mpr fun hnone => hlost ⟨hstream, hnone⟩
        refine .inl ((hframe.device hsome).elim .inl fun hroute => ?_)
        obtain ⟨addr, htarget, hd⟩ := aimed_device haimed
        rw [hlookup] at hd
        exact served_device (hvalid _ htarget) (htargets _ htarget) hd hroute

/-- With an explicit and empty scope, only a container over groups sends a broadcast. -/
theorem container_of_free (hempty : attrs.explicitEmpty = true) (hgroup : op.targetGroup = 255)
    (hfree : broadcastBlocked (attrsFor h attrs action) op = false) :
    ∃ target offset actions, action = .offsetGroup target offset actions ∧ target ≠ .broadcast := by
  have hblocked : ∀ attrs', attrs'.explicitEmpty = true → broadcastBlocked attrs' op = true := by
    intro attrs' h
    rw [broadcastBlocked, hgroup, h]
    rfl
  cases action with
  | offsetGroup target offset actions =>
    refine ⟨target, offset, actions, rfl, ?_⟩
    rintro rfl
    exact absurd (hblocked attrs hempty) (Bool.eq_false_iff.mp hfree)
  | _ => exact absurd (hblocked attrs hempty) (Bool.eq_false_iff.mp hfree)

/-- With an explicit and empty scope, an action sends no sync and no broadcast of its own. -/
theorem notScoped_of_sentFor (hempty : attrs.explicitEmpty = true) (hsent : SentFor env h attrs action f) :
    NotScoped h action f := by
  obtain ⟨plan, op, hplan, hop, hfree, w, rfl, hf⟩ := hsent
  have hbroadcast : ∀ {d}, FrameFor w.host (targetForOp (attrsFor w.host attrs action) op) d f →
      op.targetGroup = 255 → d = .group 255 → f.opcode ≠ .stream →
        ∃ target offset actions, action = .offsetGroup target offset actions ∧ target ≠ .broadcast ∧
          (networkIdsForTarget w.host none target = [] ∨
            Served w.host (networkIdsForTarget w.host none target) f.transport) := by
    intro d hframe hgroup hd hstream
    obtain ⟨target, offset, actions, haction, htarget⟩ := container_of_free hempty hgroup hfree
    refine ⟨target, offset, actions, haction, htarget, ?_⟩
    by_cases hids : networkIdsForTarget w.host none target = []
    · exact .inl hids
    · rw [targetForOp_broadcast hgroup, haction] at hframe
      exact .inr (served_frameFor hframe hstream hd (attrsFor_narrowed htarget hids))
  cases planActionDispatch_origin hplan op hop with
  | sync brightness triggerArmed hgroup hpayload =>
    obtain ⟨target, offset, actions, haction, -⟩ := container_of_free hempty hgroup hfree
    cases haction
  | setup config hpayload hgroup =>
    obtain ⟨hframe, hopcode⟩ := sendOp_offset hpayload hf
    refine ⟨hframe.opcode, fun hd => ?_⟩
    have hall : op.targetGroup = 255 :=
      (Destination.group.inj (Option.some.inj (hd.symm.trans hframe.destination))).symm
    exact hbroadcast hframe hall (by rw [hall]) (by rw [hopcode]; nofun)
  | aimed kind params d hgroup hpayload haimed hkind =>
    have hframe := sendOp_effect hpayload hf
    refine ⟨hframe.opcode, fun hd => ?_⟩
    obtain rfl : d = .group 255 := (Option.some.inj (hd.symm.trans hframe.destination)).symm
    refine hbroadcast hframe hgroup rfl fun hstream => ?_
    obtain ⟨target, offset, actions, haction, -⟩ := container_of_free hempty hgroup hfree
    -- A container has no stream among its children.
    cases kind with
    | none =>
      obtain ⟨target', params', haction'⟩ := hkind rfl
      rw [haction] at haction'
      cases haction'
    | some kind => exact sendOp_not_stream hpayload hf hstream

end Confined

/-! ### The run -/

theorem existingIds_scope {h : Host} {networkIds : List String} (hne : networkIds ≠ [])
    (hknown : ∀ networkId ∈ networkIds, networkId ∈ allKnownNetworkIds h) :
    ∃ ids, (sceneAttrs (.explicit networkIds) (existingIds h networkIds)).scope = some ids ∧
      ∀ id ∈ ids, id ∈ networkIds := by
  have hmem : ∀ id, id ∈ existingIds h networkIds ↔ id ∈ networkIds := by
    intro id
    rw [existingIds, mem_keepFirst_id, List.mem_filter]
    refine and_iff_left_of_imp fun hid => ?_
    have hk := hknown id hid
    have hempty : id ≠ "" := by
      rw [allKnownNetworkIds, List.mem_filter] at hk
      exact of_decide_eq_true hk.2
    exact decide_eq_true ⟨hempty, .inr hk⟩
  obtain ⟨first, rest, rfl⟩ := List.exists_cons_of_ne_nil hne
  have hne' : existingIds h (first :: rest) ≠ [] := List.ne_nil_of_mem ((hmem first).mpr (List.mem_cons_self ..))
  rw [sceneAttrs, broadcastTarget, if_neg hne']
  exact ⟨_, rfl, fun id hid => (hmem id).mp (mem_keepFirst_id.mp hid)⟩

theorem existingIds_gone {h : Host} {networkIds : List String} (hsome : allKnownNetworkIds h ≠ [])
    (hgone : ∀ networkId ∈ networkIds, networkId ∉ allKnownNetworkIds h) :
    (sceneAttrs (.explicit networkIds) (existingIds h networkIds)).explicitEmpty = true := by
  have hnil : existingIds h networkIds = [] := by
    refine List.eq_nil_iff_forall_not_mem.mpr fun id hid => ?_
    rw [existingIds, mem_keepFirst_id, List.mem_filter] at hid
    exact (of_decide_eq_true hid.2).2.elim hsome (hgone id hid.1)
  rw [hnil]
  rfl

theorem targets_valid {action : Action} (h : action.Canonical) :
    ∀ target ∈ Action.targets action, target.Valid := by
  cases action with
  | effect e => exact fun target htarget => List.mem_singleton.mp htarget ▸ h.1
  | startblock target params => exact fun target htarget => List.mem_singleton.mp htarget ▸ h.1
  | sync => simp [Action.targets]
  | delay durationMs => simp [Action.targets]
  | offsetGroup target offset actions =>
    have hcontainer : Container target offset actions := h.1
    intro t ht
    rcases List.mem_cons.mp ht with rfl | ht
    · exact hcontainer.scope
    · obtain ⟨e, he, rfl⟩ := List.mem_map.mp ht
      exact (hcontainer.children e he).target

/-- **A run of a scene with an explicit scope adds frames that are each sent for an action
of the scene. If the scene passes the check, they are confined to the listed networks; if
there are networks and none of them is listed, nobody is synced and no action but a
container over groups sends a broadcast, which is for the networks of these groups.** -/
theorem explicit_scope_confines (env : Environment) (progress : Option (Event → Except PyError Unit))
    (presetLookup : Option (Json → Option Preset)) (sceneKey : String) (scene : Scene)
    (networkIds : List String) (s : RunState World) (hinputs : env.inputs = plannerInputs presetLookup)
    (hscope : scene.networkScope = .explicit networkIds) (hcanonical : CanonicalList scene.actions) :
    ∃ new, (runScene (services env progress) sceneKey scene s).2.world.frames = s.world.frames ++ new ∧
      (validateSceneScopeConsistency s.world.host scene = .ok () → ∀ f ∈ new, ∃ action ∈ scene.actions,
        SentFor env s.world.host (sceneAttrs scene.networkScope (sceneNetworkIds s.world.host scene)) action f ∧
          Confined s.world.host networkIds action f) ∧
      (allKnownNetworkIds s.world.host ≠ [] →
        (∀ networkId ∈ networkIds, networkId ∉ allKnownNetworkIds s.world.host) → ∀ f ∈ new,
          ∃ action ∈ scene.actions, SentFor env s.world.host
            (sceneAttrs scene.networkScope (sceneNetworkIds s.world.host scene)) action f ∧
          NotScoped s.world.host action f) := by
  obtain ⟨new, hnew, hsent⟩ := (runScene_sends env progress sceneKey scene
    (s := s) rfl).frames
  have hids : sceneNetworkIds s.world.host scene = existingIds s.world.host networkIds := by
    rw [sceneNetworkIds, hscope]
  refine ⟨new, hnew, fun hcheck f hf => ?_, fun hsome hgone f hf => ?_⟩
  · obtain ⟨hne, hknown, htargets⟩ := validateSceneScopeConsistency_ok hscope hcheck
    obtain ⟨action, haction, hfor⟩ := hsent f hf
    refine ⟨action, haction, hfor, ?_⟩
    refine confined_of_sentFor (by rw [hinputs]; rfl) (by rw [hinputs]; rfl)
      (targets_valid (hcanonical.actions action haction))
      (htargets action haction) ?_ hfor
    rw [hids, hscope]
    exact existingIds_scope hne hknown
  · obtain ⟨action, haction, hfor⟩ := hsent f hf
    refine ⟨action, haction, hfor, notScoped_of_sentFor ?_ hfor⟩
    rw [hids, hscope]
    exact existingIds_gone hsome hgone

/-! ### Scenes for one network -/

/-- Without MACs of gateways, a transport carries the network it is stamped with. -/
theorem not_carries {h : Host} {networkId : String} {t : Transport} (hmacs : ∀ n ∈ h.networks, n.gatewayMac = none)
    (hstamp : t.networkId ≠ some networkId) : ¬ h.Carries networkId t := by
  rintro (hsame | ⟨n, mac, hn, hmac, -⟩)
  · exact hstamp hsame
  · unfold Host.networkById at hn
    split at hn
    · cases hn
    · rw [hmacs n (List.mem_of_find?_eq_some hn)] at hmac
      cases hmac

/-- No presets, and a stream of one payload. -/
def noPresets : Environment where
  inputs := plannerInputs none
  clockMs _ := 0
  streams _ _ _ := (.ok (), [[1]])

/-- The frames of a run of a scene that lists `A`, with some actions. -/
def framesFor (h : Host) (actions : List Action) : List Frame :=
  (runScene (services noPresets none) "scene" ⟨0, "scene", "Scene", .null, .null, actions, true, .explicit ["A"]⟩
    ⟨⟨none, false⟩, ⟨h, []⟩, [], []⟩).2.world.frames

/-- A stored scene that lists `A` passes the check, and its run has a frame on the transport of another network. -/
def LeavesScope (h : Host) (actions : List Action) : Prop :=
  CanonicalList actions ∧ validateSceneScopeConsistency h ⟨0, "scene", "Scene", .null, .null, actions, true, .explicit ["A"]⟩ = .ok () ∧
    ∃ f ∈ framesFor h actions, ¬ h.Carries "A" f.transport

theorem canonical_one {action : Action} (h : action.Canonical) : CanonicalList [action] :=
  ⟨show 1 ≤ MAX_ACTIONS_PER_SCENE by decide, fun _ ha => List.mem_singleton.mp ha ▸ h⟩

theorem leavesScope_of {h : Host} {action : Action} (hmacs : ∀ n ∈ h.networks, n.gatewayMac = none)
    (hcanonical : action.Canonical)
    (hcheck : validateSceneScopeConsistency h
      ⟨0, "scene", "Scene", .null, .null, [action], true, .explicit ["A"]⟩ = .ok ())
    (hframe : ∃ f ∈ framesFor h [action], f.transport.networkId ≠ some "A") : LeavesScope h [action] := by
  obtain ⟨f, hf, hstamp⟩ := hframe
  exact ⟨canonical_one hcanonical, hcheck, f, hf, not_carries hmacs hstamp⟩

/-- Two networks and one transport, stamped with the second. -/
def loneTransport : Host where
  networks := [⟨"A", .rf, none⟩, ⟨"B", .rf, none⟩]
  groups := []
  devices := []
  transports := [⟨0, some "B", "AABBCCDDEE02"⟩]

/-- Two networks with a transport each, that of the second first; three groups of the first network with a device
each, one of the second, and one of neither. -/
def pairedTransports : Host where
  networks := [⟨"A", .rf, none⟩, ⟨"B", .rf, none⟩]
  groups := [⟨none⟩, ⟨some "A"⟩, ⟨some "A"⟩, ⟨some "A"⟩, ⟨some "B"⟩, ⟨none⟩]
  devices := [⟨"AABBCC000001", 1, some "A"⟩, ⟨"AABBCC000002", 2, some "A"⟩, ⟨"AABBCC000003", 3, some "A"⟩,
    ⟨"AABBCC000004", 4, some "B"⟩, ⟨"AABBCC000005", 5, none⟩]
  transports := [⟨0, some "B", "AABBCCDDEE02"⟩, ⟨1, some "A", "AABBCCDDEE01"⟩]

/-- What leaves the scope: a sync over the only transport; a frame for a group of no network; a stream to all, and
one to a device of no network; the broadcast in a container over a group of no network; and the NONE that a
container sends to a known group of the other network. Once the listed network is gone, a container over a group
of the other one still sends a broadcast there; and without any network there is a sync. -/
theorem frames_leave_scope :
    LeavesScope loneTransport [.sync] ∧
    LeavesScope pairedTransports [.effect ⟨.wledPreset, .groups [5], [], {}⟩] ∧
    LeavesScope pairedTransports [.startblock .broadcast []] ∧
    LeavesScope pairedTransports [.startblock (.device "AABBCC000005") []] ∧
    LeavesScope pairedTransports [.offsetGroup (.groups [5]) .none [⟨.wledPreset, .broadcast, [], {}⟩]] ∧
    LeavesScope pairedTransports [.offsetGroup (.groups [1, 2, 3]) (.linear 0 100) []] ∧
    (∃ f ∈ framesFor {pairedTransports with networks := [⟨"B", .rf, none⟩]}
      [.offsetGroup (.groups [4]) .none [⟨.wledPreset, .broadcast, [], {}⟩]], f.destination = some (.group 255)) ∧
    ∃ f ∈ framesFor {pairedTransports with networks := []} [.sync], f.opcode = .sync := by
  have hgroups : ∀ value, value ∈ [[5], [1, 2, 3]] → ValidIds value := by
    intro value hvalue
    simp only [List.mem_cons, List.not_mem_nil, or_false] at hvalue
    rcases hvalue with rfl | rfl <;> exact ⟨by decide, by decide, by decide⟩
  refine ⟨leavesScope_of (by decide) ⟨trivial, rfl⟩ rfl ?_,
    leavesScope_of (by decide) ⟨hgroups [5] (by decide), rfl⟩ rfl ?_,
    leavesScope_of (by decide) ⟨trivial, rfl⟩ rfl ?_,
    leavesScope_of (by decide) ⟨(by decide : isMac12 "AABBCC000005" = true), rfl⟩ rfl ?_,
    leavesScope_of (by decide) ⟨⟨hgroups [5] (by decide), nofun, by decide, trivial, by decide, ?_⟩, rfl⟩ rfl ?_,
    leavesScope_of (by decide) ⟨⟨hgroups [1, 2, 3] (by decide), nofun, by decide, ?_, by decide, by simp⟩, rfl⟩
      rfl ?_, ?_, ?_⟩
  case refine_5 => exact List.forall_mem_singleton.mpr ⟨trivial, fun _ _ _ heq => by cases heq⟩
  case refine_7 => exact ⟨by decide, by decide⟩
  all_goals decide +kernel

/-- A sync, a broadcast, a frame for a group and one for a device, in a scene that lists `A` alone. -/
def listedActions : List Action :=
  [.sync, .effect ⟨.wledPreset, .broadcast, [], {}⟩, .effect ⟨.wledPreset, .groups [2], [], {}⟩,
    .effect ⟨.wledPreset, .device "AABBCC000003", [], {}⟩]

theorem listedActions_canonical : CanonicalList listedActions := by
  refine ⟨by decide, fun action haction => ?_⟩
  simp only [listedActions, List.mem_cons, List.not_mem_nil, or_false] at haction
  rcases haction with rfl | rfl | rfl | rfl
  · exact ⟨trivial, rfl⟩
  · exact ⟨trivial, rfl⟩
  · exact ⟨⟨by decide, by decide, by decide⟩, rfl⟩
  · exact ⟨(by decide : isMac12 "AABBCC000003" = true), rfl⟩

/-- With two transports, they all go out on that of `A`. -/
theorem listed_confined :
    (framesFor pairedTransports listedActions).map (·.transport.networkId) = [some "A", some "A", some "A", some "A"] ∧
      ∀ f ∈ framesFor pairedTransports listedActions, ∃ action ∈ listedActions, Confined pairedTransports ["A"] action f := by
  refine ⟨by decide +kernel, ?_⟩
  obtain ⟨new, hnew, hconfined, -⟩ := explicit_scope_confines noPresets none none "scene"
    ⟨0, "scene", "Scene", .null, .null, listedActions, true, .explicit ["A"]⟩ ["A"]
    ⟨⟨none, false⟩, ⟨pairedTransports, []⟩, [], []⟩ rfl rfl listedActions_canonical
  intro f hf
  obtain ⟨action, haction, -, h⟩ := hconfined rfl f (by rw [framesFor, hnew] at hf; exact hf)
  exact ⟨action, haction, h⟩

end RaceLink.Runner
