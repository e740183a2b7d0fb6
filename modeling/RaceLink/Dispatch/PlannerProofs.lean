import RaceLink.Dispatch.Planner

/-! What each function of the planner gives, for those that use its plans: the
parameters of an op carry the merged flags, an effect has one op for each of its
destinations or is degraded, and the ops of a container are those of its setup
followed by those of its children. -/
namespace RaceLink.Dispatch
open Python Library Domain Protocol Scenes

/-! ### Flags -/

/-- The OFFSET_MODE flag of the parameters of an op, as the senders read it. -/
def offsetFlag (params : Dict) : Bool := (params.get "offset_mode").truthy

/-- The last flag merged decides the flag that is read. -/
theorem offsetFlag_mergeFlags (baseParams persisted : Dict) {override : FlagsOverride} {flag : Bool}
    (h : override.offsetMode = some flag) : offsetFlag (mergeFlags baseParams persisted override) = flag := by
  show offsetFlag (mergeFlag persisted override _ .offsetMode) = flag
  have hvalue : override.get .offsetMode = some flag := h
  rw [mergeFlag, hvalue, Option.getD_some]
  cases flag with
  | true => rw [if_pos rfl, offsetFlag, Dict.get, Dict.get?_set]; rfl
  | false => rw [if_neg (by simp), offsetFlag, Dict.get, Dict.get?_pop]; rfl

/-! ### Effects -/

/-- The sender of an effect kind. -/
def effectSend (kind : Option EffectKind) (params : Dict) (destination : Destination) : Send :=
  match kind with
  | some .wledPreset => .wledPreset params destination
  | some _ => .control params destination
  | none => .startblock params destination

theorem buildEffectOp_ok {kind : Option EffectKind} {params : Dict} {destination : Destination} {op : WireOp}
    (h : buildEffectOp kind params destination = .ok op) :
    op.targetGroup = targetGroupForOp destination ∧ op.payload = effectSend kind params destination := by
  unfold buildEffectOp at h
  split at h
  · cases h
    exact ⟨rfl, rfl⟩
  · next k hk =>
    obtain ⟨len, -, h⟩ := bind_ok.mp h
    cases h
    cases k <;> first | exact ⟨rfl, rfl⟩ | exact absurd rfl hk
  · obtain ⟨len, -, h⟩ := bind_ok.mp h
    cases h
    exact ⟨rfl, rfl⟩

/-- The preset of an action is there: only `rl_preset` needs one, and without a preset
service any reference will do. -/
def presetFound (inputs : PlannerInputs) (kind : Option EffectKind) (params : Dict) : Bool :=
  match kind with
  | some .rlPreset =>
    params.get "presetId" != .null &&
      inputs.presetLookup.all fun find => (find (params.get "presetId")).isSome
  | _ => true

/-- The target of an action is there. -/
def resolvable (inputs : PlannerInputs) (target : Target) : Bool :=
  (resolveTarget inputs.deviceLookup target).isSome

/-- An action whose plan is not degraded. -/
def plannable (inputs : PlannerInputs) (kind : Option EffectKind) (target : Target) (params : Dict) : Bool :=
  resolvable inputs target && presetFound inputs kind params

theorem materialise_found {inputs : PlannerInputs} {kind : Option EffectKind} {params : Dict}
    {m : Option Materialised} (h : materialise inputs kind params = .ok m) :
    m.isSome = presetFound inputs kind params := by
  unfold materialise at h
  split at h
  case h_2 hkind =>
    cases h
    rw [presetFound]
    · rfl
    · exact hkind
  unfold materializeRlPreset at h
  by_cases hnull : params.get "presetId" = .null
  · rw [if_pos hnull] at h
    cases h
    simp [presetFound, hnull]
  · have hne : (params.get "presetId" != .null) = true := by simpa using hnull
    rw [if_neg hnull] at h
    rw [presetFound, hne, Bool.true_and]
    split at h
    · next hlookup =>
      cases h
      rw [hlookup]
      rfl
    · next find hlookup =>
      rw [hlookup, Option.all_some]
      split at h
      · next hnone =>
        cases h
        rw [hnone]
        rfl
      · next preset hsome =>
        obtain ⟨merged, -, h⟩ := bind_ok.mp h
        cases h
        rw [hsome]
        rfl

/-- The parameters and flags of an action before the override. -/
def overrideWith (flagsOverride : FlagsOverride) (forceOffsetFlag : Option Bool) : FlagsOverride :=
  {flagsOverride with offsetMode := forceOffsetFlag <|> flagsOverride.offsetMode}

/-- A planned effect: one op for each destination, all with the same parameters. -/
structure Planned (inputs : PlannerInputs) (kind : Option EffectKind) (target : Target) (params : Dict)
    (override : FlagsOverride) (ops : List WireOp) : Prop where
  destinations : ∃ destinations preset, resolveTarget inputs.deviceLookup target = some destinations ∧
    materialise inputs kind params = .ok (some preset) ∧
    List.Forall₂ (fun d op =>
      buildEffectOp kind (mergeFlags preset.params preset.flags override) d = .ok op) destinations ops

/-- **A plan of an effect is degraded and empty, or has an op for each destination.** -/
theorem planEffect_ok {inputs : PlannerInputs} {kind : Option EffectKind} {target : Target} {params : Dict}
    {flagsOverride : FlagsOverride} {force : Option Bool} {p : ActionDispatchPlan}
    (h : planEffect inputs kind target params flagsOverride force = .ok p) :
    p.degraded = !plannable inputs kind target params ∧
      (p.degraded = true → p.ops = []) ∧
      (p.degraded = false →
        Planned inputs kind target params (overrideWith flagsOverride force) p.ops) := by
  unfold planEffect at h
  cases htarget : resolveTarget inputs.deviceLookup target with
  | none =>
    rw [htarget] at h
    cases h
    refine ⟨?_, fun _ => rfl, nofun⟩
    simp [plannable, resolvable, htarget]
  | some destinations =>
    rw [htarget] at h
    obtain ⟨m, hm, h⟩ := bind_ok.mp h
    have hfound := materialise_found hm
    have hplannable : plannable inputs kind target params = m.isSome := by
      simp [plannable, resolvable, htarget, hfound]
    cases m with
    | none =>
      cases h
      exact ⟨by rw [hplannable]; rfl, fun _ => rfl, nofun⟩
    | some preset =>
      obtain ⟨ops, hops, h⟩ := bind_ok.mp h
      cases h
      exact ⟨by rw [hplannable]; rfl, nofun, fun _ => ⟨destinations, preset, htarget, hm, mapM_ok.mp hops⟩⟩

/-! ### Containers -/

theorem mem_tagOps {phase : Phase} {ops : List WireOp} {op : WireOp} :
    op ∈ tagOps phase ops ↔ ∃ op' ∈ ops, op = {op' with phase} := by
  simp only [tagOps, List.mem_map, eq_comm]

/-- The ops that carry the number of a child are the ops of its plan. -/
theorem mem_childOps {index : Nat} {plans : List ActionDispatchPlan} {op : WireOp} :
    op ∈ childOps index plans ↔
      ∃ i p, plans[i]? = some p ∧ op ∈ tagOps (.child (index + i) p.kind) p.ops := by
  induction plans generalizing index with
  | nil => simp [childOps]
  | cons p rest ih =>
    rw [childOps, List.mem_append, ih]
    constructor
    · rintro (h | ⟨i, q, hi, h⟩)
      · exact ⟨0, p, rfl, h⟩
      · exact ⟨i + 1, q, hi, by rwa [← Nat.add_assoc, Nat.add_right_comm]⟩
    · rintro ⟨i, q, hi, h⟩
      cases i with
      | zero =>
        cases hi
        exact .inl h
      | succ i => exact .inr ⟨i, q, hi, by rwa [Nat.add_right_comm, Nat.add_assoc]⟩

/-- **The plan of a container: its setup, then its children.** -/
theorem planOffsetGroup_ok {inputs : PlannerInputs} {target : Target} {offset : OffsetBlock}
    {actions : List Effect} {plan : ActionDispatchPlan} :
    planOffsetGroup inputs target offset actions = .ok plan →
      ∃ setup childPlans, planOffsetSetup target offset inputs.known = .ok setup ∧
        List.Forall₂ (fun e p => planChild inputs (decide (offset ≠ .none)) e = .ok p) actions childPlans ∧
        plan.ops = tagOps .offset setup.ops ++ childOps 0 childPlans ∧
        plan.degraded = childPlans.any (·.degraded) ∧ plan.childPlans = childPlans := by
  intro h
  obtain ⟨setup, hsetup, h⟩ := bind_ok.mp h
  obtain ⟨childPlans, hchildren, h⟩ := bind_ok.mp h
  cases h
  exact ⟨setup, childPlans, hsetup, mapM_ok.mp hchildren, rfl, rfl, rfl⟩

end RaceLink.Dispatch
