import RaceLink.Scenes.CanonicalProofs

/-! The rewriting that a save adds to the validator (`collapse_actions_to_broadcast`):
a groups target that lists every known group becomes a broadcast.

On a canonical action the result is canonical again with one exception, a
container with an explicit table (`collapseAction_explicit`): once it is
broadcast, there are no groups left for its table to be checked against. -/
namespace RaceLink.Scenes
open Python Library

/-- The listed ids are all of the known groups, and some group is known. -/
def covers (known ids : List Int) : Bool := !known.isEmpty && known.all (· ∈ ids)

/-- `_collapse_groups_target`. An empty list stays as it is. -/
def collapseGroupsTarget (known : List Int) : Target → Target
  | .groups value => if value ≠ [] ∧ covers known value = true then .broadcast else .groups value
  | target => target

def Effect.collapse (known : List Int) (e : Effect) : Effect :=
  {e with target := collapseGroupsTarget known e.target}

/-- `_collapse_action`. -/
def collapseAction (known : List Int) : Action → Action
  | .effect e => .effect (e.collapse known)
  | .startblock target params => .startblock (collapseGroupsTarget known target) params
  | .sync => .sync
  | .delay durationMs => .delay durationMs
  | .offsetGroup target offset actions =>
    .offsetGroup (collapseGroupsTarget known target) offset (actions.map (Effect.collapse known))

/-- `collapse_actions_to_broadcast`. -/
def collapseActionsToBroadcast (known : List Int) (actions : List Action) : List Action :=
  if known = [] then actions else actions.map (collapseAction known)

/-- A container whose explicit table is about to lose its groups. -/
def Action.explicitOverAll (known : List Int) : Action → Bool
  | .offsetGroup (.groups ids) (.explicit _) _ => covers known ids
  | _ => false

theorem covers_nil (ids : List Int) : covers [] ids = false := rfl

/-- Without a known group nothing is rewritten, which is why the source can return early. -/
theorem collapseGroupsTarget_nil (t : Target) : collapseGroupsTarget [] t = t := by
  cases t <;> simp [collapseGroupsTarget, covers_nil]

theorem Effect.collapse_nil (e : Effect) : e.collapse [] = e := by
  rw [Effect.collapse, collapseGroupsTarget_nil]

theorem collapseAction_nil (a : Action) : collapseAction [] a = a := by
  cases a with
  | offsetGroup target offset actions =>
    rw [collapseAction, collapseGroupsTarget_nil, funext Effect.collapse_nil, List.map_id']
  | _ => simp [collapseAction, Effect.collapse_nil, collapseGroupsTarget_nil]

theorem collapseActionsToBroadcast_eq (known : List Int) (actions : List Action) :
    collapseActionsToBroadcast known actions = actions.map (collapseAction known) := by
  unfold collapseActionsToBroadcast
  split
  case isTrue h =>
    subst h
    rw [funext collapseAction_nil, List.map_id']
  case isFalse => rfl

/-- A target becomes a broadcast or stays. -/
theorem collapseGroupsTarget_cases (known : List Int) (t : Target) :
    collapseGroupsTarget known t = .broadcast ∨ collapseGroupsTarget known t = t := by
  cases t with
  | broadcast => exact .inl rfl
  | device value => exact .inr rfl
  | groups value => exact ite_eq_or_eq ..

theorem collapseGroupsTarget_valid {known : List Int} {t : Target} (h : t.Valid) :
    (collapseGroupsTarget known t).Valid := by
  rcases collapseGroupsTarget_cases known t with heq | heq <;> rw [heq]
  · trivial
  · exact h

theorem collapseGroupsTarget_normal {known : List Int} {t : Target} (h : t.normal = t) :
    (collapseGroupsTarget known t).normal = collapseGroupsTarget known t := by
  rcases collapseGroupsTarget_cases known t with heq | heq <;> rw [heq]
  · rfl
  · exact h

theorem collapseGroupsTarget_not_device {known : List Int} {t : Target}
    (h : ∀ value, t ≠ .device value) (value : String) : collapseGroupsTarget known t ≠ .device value := by
  rcases collapseGroupsTarget_cases known t with heq | heq <;> rw [heq]
  · simp
  · exact h value

/-- A rewritten target names groups only if it was not rewritten. -/
theorem collapseGroupsTarget_groups {known : List Int} {t : Target} {value : List Int}
    (h : collapseGroupsTarget known t = .groups value) : t = .groups value := by
  rcases collapseGroupsTarget_cases known t with heq | heq <;> rw [heq] at h
  · cases h
  · exact h

/-- The groups a container has after the rewriting are those it had before. -/
theorem collapse_groupIds {known : List Int} {t : Target} {ids : List Int}
    (h : (collapseGroupsTarget known t).groupIds = some ids) : t.groupIds = some ids := by
  cases ht : collapseGroupsTarget known t with
  | broadcast => simp [ht, Target.groupIds] at h
  | device v => simp [ht, Target.groupIds] at h
  | groups value =>
    rw [ht] at h
    rw [collapseGroupsTarget_groups ht]
    exact h

theorem Effect.collapse_valid {known : List Int} {t : Target} {e : Effect}
    (h : e.Valid t.groupIds) :
    (e.collapse known).Valid (collapseGroupsTarget known t).groupIds := by
  refine ⟨collapseGroupsTarget_valid h.target, fun groups hg value hv => ?_⟩
  exact h.within groups (collapse_groupIds hg) value (collapseGroupsTarget_groups hv)

/-- A formula fits a container with groups and a broadcast one alike. -/
theorem OffsetBlock.Valid.of_formula {groupIds : Option (List Int)} (groupIds' : Option (List Int))
    {block : OffsetBlock} (h : block.Valid groupIds) (hexp : ∀ values, block ≠ .explicit values) :
    block.Valid groupIds' := by
  cases block with
  | explicit values => exact absurd rfl (hexp values)
  | none => trivial
  | linear base step => exact h
  | vshape base step center => exact h
  | modulo base step cycle => exact h

/-- An explicit table stays with its container when the container keeps its groups. -/
theorem collapse_block_valid {known : List Int} {t : Target} {block : OffsetBlock}
    (h : block.Valid t.groupIds)
    (hkeep : ∀ values, block = .explicit values → collapseGroupsTarget known t = t) :
    block.Valid (collapseGroupsTarget known t).groupIds := by
  by_cases hexp : ∃ values, block = .explicit values
  · obtain ⟨values, hv⟩ := hexp
    rwa [hkeep values hv]
  · exact h.of_formula _ fun values hv => hexp ⟨values, hv⟩

theorem collapseAction_valid {known : List Int} {a : Action} (h : a.Valid)
    (hexp : a.explicitOverAll known = false) : (collapseAction known a).Valid := by
  cases a with
  | effect e => exact collapseGroupsTarget_valid h
  | startblock target params => exact collapseGroupsTarget_valid h
  | sync => trivial
  | delay durationMs => exact h
  | offsetGroup target offset actions =>
    have hkeep : ∀ values, offset = .explicit values → collapseGroupsTarget known target = target := by
      rintro values rfl
      cases target with
      | broadcast => rfl
      | device value => rfl
      | groups ids =>
        have hcov : covers known ids = false := hexp
        simp [collapseGroupsTarget, hcov]
    refine ⟨collapseGroupsTarget_valid h.scope, collapseGroupsTarget_not_device h.not_device, ?_,
      collapse_block_valid h.block hkeep, by simpa using h.count, fun e he => ?_⟩
    · cases hids : (collapseGroupsTarget known target).groupIds with
      | none => exact Nat.zero_le _
      | some ids =>
        have := h.entries
        rwa [collapse_groupIds hids] at this
    · obtain ⟨e', he', rfl⟩ := List.mem_map.mp he
      exact Effect.collapse_valid (h.children e' he')

theorem Effect.collapse_normal {known : List Int} {e : Effect} (h : e.normal = e) :
    (e.collapse known).normal = e.collapse known := by
  have htarget : e.target.normal = e.target := congrArg Effect.target h
  rw [Effect.normal, Effect.collapse, collapseGroupsTarget_normal htarget]

theorem collapseAction_normal {known : List Int} {a : Action} (h : a.normal = a) :
    (collapseAction known a).normal = collapseAction known a := by
  cases a with
  | effect e =>
    exact congrArg Action.effect (Effect.collapse_normal (Action.effect.inj h))
  | startblock target params =>
    have htarget := (Action.startblock.inj h).1
    rw [collapseAction, Action.normal, collapseGroupsTarget_normal htarget]
  | sync => rfl
  | delay durationMs => rfl
  | offsetGroup target offset actions =>
    obtain ⟨htarget, hoffset, hactions⟩ := Action.offsetGroup.inj h
    have hchildren : ∀ e ∈ actions, e.normal = e := map_eq_self.mp hactions
    have hmap : (actions.map (Effect.collapse known)).map Effect.normal =
        actions.map (Effect.collapse known) := by
      rw [List.map_map]
      exact List.map_congr_left fun e he => Effect.collapse_normal (hchildren e he)
    rw [collapseAction, Action.normal, collapseGroupsTarget_normal htarget, hoffset, hmap]

/-- The rewriting keeps an action canonical, the one kind of container apart. -/
theorem collapseAction_canonical {known : List Int} {a : Action} (h : a.Canonical)
    (hexp : a.explicitOverAll known = false) : (collapseAction known a).Canonical :=
  ⟨collapseAction_valid h.1 hexp, collapseAction_normal h.2⟩

/-- The exception: an explicit table over all known groups loses the groups it is a table of. -/
theorem collapseAction_explicit {known : List Int} {a : Action} (h : a.Valid)
    (hexp : a.explicitOverAll known = true) :
    ∃ values actions, collapseAction known a = .offsetGroup .broadcast (.explicit values) actions := by
  cases a with
  | effect e => cases hexp
  | startblock target params => cases hexp
  | sync => cases hexp
  | delay durationMs => cases hexp
  | offsetGroup target offset actions =>
    cases target with
    | broadcast => cases hexp
    | device value => cases hexp
    | groups ids =>
      cases offset with
      | explicit values =>
        have hcov : covers known ids = true := hexp
        have hscope : ValidIds ids := h.scope
        exact ⟨values, actions.map (Effect.collapse known), by
          simp [collapseAction, collapseGroupsTarget, hcov, hscope.nonempty]⟩
      | none => cases hexp
      | linear base step => cases hexp
      | vshape base step center => cases hexp
      | modulo base step cycle => cases hexp

/-- What a save can store: a canonical action, or the exception. -/
def Action.Stored (a : Action) : Prop :=
  a.Canonical ∨ ∃ values actions, a = .offsetGroup .broadcast (.explicit values) actions

theorem collapseAction_stored {known : List Int} {a : Action} (h : a.Canonical) :
    (collapseAction known a).Stored := by
  cases hexp : a.explicitOverAll known with
  | false => exact .inl (collapseAction_canonical h hexp)
  | true => exact .inr (collapseAction_explicit h.1 hexp)

end RaceLink.Scenes
