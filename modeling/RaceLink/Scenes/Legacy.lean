import RaceLink.Scenes.CanonicalProofs

/-! The older shapes of an action, and what they mean.

Each shape is rewritten where it stands: the targets `scope` and `group`, the field `groups` of a container,
and the removed target `groups_offset`, with its table of rows or with its formula. Nothing is coerced on the
way; the validator reads the rewritten action as it reads any other, and takes it just when the shims and the
validator took the old one. -/
namespace RaceLink.Scenes
open Python Domain Library

/-! ### The modern form -/

def broadcastJson : Json := dict [("kind", .str "broadcast")]

def groupsJson (value : Json) : Json := dict [("kind", .str "groups"), ("value", value)]

/-- A target: `scope` is a broadcast, a `group` is a list of one. -/
def modernTarget (raw : Json) : Json :=
  match raw with
  | .obj target =>
    match Dict.get target "kind" with
    | .str "scope" => broadcastJson
    | .str "group" => groupsJson (.arr [Dict.get target "value"])
    | _ => raw
  | _ => raw

/-- The fields of an action, with its target rewritten. -/
def withModernTarget (fields : Dict) : Dict :=
  if fields.has "target" then fields.set (.str "target") (modernTarget (fields.get "target")) else fields

def modernChild : Json → Json
  | .obj fields => .obj (withModernTarget fields)
  | raw => raw

/-- The word of a list of groups for all of them. -/
def namesAll (groups : Json) : Prop := groups = .str "all" ∨ groups.eqInt 255 = true

instance (groups : Json) : Decidable (namesAll groups) := inferInstanceAs (Decidable (_ ∨ _))

/-- The target of a container, or what its field `groups` stands for. -/
def modernContainerTarget (raw : Dict) : Json :=
  match raw.get "target" with
  | .null => if namesAll (raw.get "groups") then broadcastJson else groupsJson (raw.get "groups")
  | target => modernTarget target

def modernContainer (raw : Dict) : Dict :=
  let moved := (raw.pop "groups").set (.str "target") (modernContainerTarget raw)
  match raw.get "actions" with
  | .arr children => moved.set (.str "actions") (.arr (children.map modernChild))
  | _ => moved

def asDict : Json → Option Dict
  | .obj fields => some fields
  | _ => none

/-- A formula. -/
def linearJson (base step : Json) : Json := dict [("mode", .str "linear"), ("base_ms", base), ("step_ms", step)]

/-- A row of a table. -/
def rowJson (id offset : Json) : Json := dict [("id", id), ("offset_ms", offset)]

def explicitJson (values : List Json) : Json := dict [("mode", .str "explicit"), ("values", .arr values)]

/-- The offset of a table of rows: the formula that the hints give, else the rows. -/
def rowsOffset (hints : Dict) (rows : List Dict) : Json :=
  let base := hints.get "base_ms"
  let step := hints.get "step_ms"
  if hints.get "mode" = .str "linear" ∧ base ≠ .null ∧ step ≠ .null then linearJson base step
  else explicitJson (rows.map fun row => rowJson (row.get "id") (row.getD "offset_ms" (.int 0)))

/-- The target and the offset that a target `groups_offset` stands for, if it is well formed. -/
def groupsOffsetParts (target : Dict) : Option (Json × Json) :=
  match target.get "groups" with
  | .arr (.obj row :: rest) => do
    let rows ← (.obj row :: rest).mapM asDict
    let hints ← asDict ((target.get "ui_hints").orElse (.obj []))
    return (groupsJson (.arr (rows.map (·.get "id"))), rowsOffset hints rows)
  | groups =>
    let offset := (target.get "offset").orElse (dict [("mode", .str "none")])
    if namesAll groups then some (broadcastJson, offset)
    else groups.toList.toOption.map fun value => (groupsJson (.arr value), offset)

/-- A container with one child for everyone in it. -/
def containerOfOne (target offset kind : Json) (params flagsOverride : Dict) : Dict :=
  [(.str "kind", .str "offset_group"), (.str "target", target), (.str "offset", offset),
    (.str "actions", .arr [dict [("kind", kind), ("target", broadcastJson), ("params", .obj params),
      ("flags_override", .obj flagsOverride)]])]

/-- The container that an action with a target `groups_offset` stands for. -/
def modernGroupsOffset (raw : Dict) : Option Dict := do
  let target ← asDict (raw.get "target")
  let (containerTarget, offset) ← groupsOffsetParts target
  let params ← ((raw.get "params").orElse (.obj [])).toDict.toOption
  let flagsOverride ← ((raw.get "flags_override").orElse (.obj [])).toDict.toOption
  return containerOfOne containerTarget offset (raw.get "kind") params flagsOverride

/-- **The modern form of an action.** A malformed target `groups_offset` has none. -/
def modernForm (raw : Dict) : Option Dict :=
  if isLegacyGroupsOffsetTarget raw then modernGroupsOffset raw
  else if raw.get "kind" = .str "offset_group" then some (modernContainer raw)
  else some (withModernTarget raw)

/-! ### Actions in the modern form -/

/-- The kind of a target is none of the older ones. -/
def ModernTarget (target : Json) : Prop :=
  ∀ fields, target = .obj fields → Dict.get fields "kind" ≠ .str "scope" ∧ Dict.get fields "kind" ≠ .str "group"

/-- No older shape is left in an action. -/
structure Modern (raw : Dict) : Prop where
  target : ModernTarget (raw.get "target")
  hierarchy : isLegacyGroupsOffsetTarget raw = false
  groups : raw.get "kind" = .str "offset_group" → raw.get "target" ≠ .null ∧ raw.has "groups" = false
  children : raw.get "kind" = .str "offset_group" → ∀ children, raw.get "actions" = .arr children →
    ∀ fields, .obj fields ∈ children → ModernTarget (Dict.get fields "target")

/-! ### Targets -/

theorem get?_withModernTarget (fields : Dict) (key : String) :
    (withModernTarget fields).get? key =
      if key = "target" then (fields.get? "target").map modernTarget else fields.get? key := by
  unfold withModernTarget Dict.has Dict.get
  cases h : fields.get? "target" with
  | none =>
    rw [if_neg (by simp)]
    split
    · next hkey => rw [hkey, h, Option.map_none]
    · rfl
  | some target => exact Dict.get?_set ..

theorem get_withModernTarget (fields : Dict) {key : String} (hkey : key ≠ "target") :
    (withModernTarget fields).get key = fields.get key := by
  rw [Dict.get, get?_withModernTarget, if_neg hkey, Dict.get]

theorem has_withModernTarget (fields : Dict) (key : String) : (withModernTarget fields).has key = fields.has key := by
  rw [Dict.has, get?_withModernTarget, Dict.has]
  split
  · next hkey => rw [hkey, Option.isSome_map]
  · rfl

theorem target_withModernTarget {fields : Dict} (h : fields.has "target" = true) :
    (withModernTarget fields).get "target" = modernTarget (fields.get "target") := by
  obtain ⟨target, htarget⟩ := Option.isSome_iff_exists.mp h
  rw [Dict.get, get?_withModernTarget, if_pos rfl, Dict.get, htarget]
  rfl

theorem canonicalTarget_groupsJson (entry : Json) (rest : List Json) :
    canonicalTarget (groupsJson (.arr (entry :: rest))) =
      collectGroupIds [] (entry :: rest) >>= fun ids => .ok (.groups (sortIds ids)) := by
  simp [canonicalTarget, migrateLegacyTarget, groupsJson, dict, Dict.get]

/-- A target that the shim rewrites to one that it leaves. -/
theorem canonicalTarget_migrated {raw raw' : Json} (h : migrateLegacyTarget raw = .ok raw')
    (hmodern : migrateLegacyTarget raw' = .ok raw') : canonicalTarget raw = canonicalTarget raw' := by
  rw [canonicalTarget, h, ok_bind, canonicalTarget, hmodern, ok_bind]

/-- A `group` is read as the list of one, whatever its value. -/
theorem canonicalTarget_group {fields : Dict} (hkind : Dict.get fields "kind" = .str "group") :
    Alike (canonicalTarget (groupsJson (.arr [Dict.get fields "value"]))) (canonicalTarget (.obj fields)) := by
  have hids : collectGroupIds [] [Dict.get fields "value"] =
      (Dict.get fields "value").toIntOr (.valueError "target.value[*] for groups must be int: %r"
        [Dict.get fields "value"]) >>= fun v => collectGroupIds [] [.int v] := rfl
  rw [canonicalTarget_groupsJson, hids, Json.toIntOr]
  cases hvalue : (Dict.get fields "value").toInt with
  | ok v =>
    have hmigrate : migrateLegacyTarget (.obj fields) = .ok (groupsJson (.arr [.int v])) := by
      simp only [migrateLegacyTarget, hkind, hvalue]
      rfl
    rw [canonicalTarget_migrated hmigrate rfl, canonicalTarget_groupsJson]
    exact Alike.refl _
  | error e =>
    have hlegacy : ∃ e', canonicalTarget (.obj fields) = .error e' := by
      cases e <;> simp [canonicalTarget, migrateLegacyTarget, hkind, hvalue]
    obtain ⟨e', he'⟩ := hlegacy
    rw [he']
    cases e <;> exact Alike.errors

/-- **A target is read as its modern form.** -/
theorem canonicalTarget_modern (raw : Json) : Alike (canonicalTarget (modernTarget raw)) (canonicalTarget raw) := by
  unfold modernTarget
  split
  · next fields =>
    split
    · next hkind =>
      have hmigrate : migrateLegacyTarget (.obj fields) = .ok broadcastJson := by
        simp only [migrateLegacyTarget, hkind]
        rfl
      rw [canonicalTarget_migrated hmigrate rfl]
      exact Alike.refl _
    · next hkind => exact canonicalTarget_group hkind
    · exact Alike.refl _
  · exact Alike.refl _

theorem containerTarget_modern (raw : Json) :
    Alike (canonicalOffsetGroupContainerTarget (modernTarget raw)) (canonicalOffsetGroupContainerTarget raw) :=
  (canonicalTarget_modern raw).bind fun _ _ => Alike.refl _

theorem child_modern (parentGroups : Option (List Int)) (raw : Json) :
    Alike (canonicalOffsetGroupChild parentGroups (modernChild raw)) (canonicalOffsetGroupChild parentGroups raw) := by
  unfold modernChild
  split
  · next fields =>
    simp only [canonicalOffsetGroupChild, get_withModernTarget fields (show "kind" ≠ "target" by decide),
      has_withModernTarget, get_withModernTarget fields (show "params" ≠ "target" by decide),
      get_withModernTarget fields (show "flags_override" ≠ "target" by decide)]
    split
    · exact Alike.refl _
    · split
      · exact Alike.refl _
      · next htarget =>
        rw [target_withModernTarget (by simpa using htarget)]
        refine Alike.bind ?_ fun _ _ => Alike.refl _
        exact (canonicalTarget_modern (Dict.get fields "target")).bind fun _ _ => Alike.refl _
  · exact Alike.refl _

/-! ### Containers -/

theorem modernTarget_ne_null {raw : Json} (h : raw ≠ .null) : modernTarget raw ≠ .null := by
  unfold modernTarget
  split
  · split <;> simp [broadcastJson, groupsJson, dict]
  · exact h

theorem modernContainerTarget_ne_null (raw : Dict) : modernContainerTarget raw ≠ .null := by
  unfold modernContainerTarget
  split
  · split <;> simp [broadcastJson, groupsJson, dict]
  · next hne => exact modernTarget_ne_null hne

/-- A field of a rewritten container. -/
theorem get?_modernContainer (raw : Dict) (key : String) :
    (modernContainer raw).get? key =
      if key = "target" then some (modernContainerTarget raw)
      else if key = "groups" then none
      else match key, raw.get "actions" with
        | "actions", .arr children => some (.arr (children.map modernChild))
        | _, _ => raw.get? key := by
  have hmoved : ∀ key, ((raw.pop "groups").set (.str "target") (modernContainerTarget raw)).get? key =
      if key = "target" then some (modernContainerTarget raw) else if key = "groups" then none else raw.get? key := by
    intro key
    rw [Dict.get?_set, Dict.get?_pop]
  unfold modernContainer
  split
  · next children hactions =>
    rw [Dict.get?_set, hmoved, hactions]
    grind
  · next hactions =>
    rw [hmoved]
    grind

theorem get_modernContainer (raw : Dict) {key : String} (htarget : key ≠ "target") (hgroups : key ≠ "groups")
    (hactions : key ≠ "actions") : (modernContainer raw).get? key = raw.get? key := by
  rw [get?_modernContainer, if_neg htarget, if_neg hgroups]
  split
  · next heq => exact absurd rfl hactions
  · rfl

theorem containerTargetRaw_modern (raw : Dict) :
    containerTargetRaw (modernContainer raw) = .ok (modernContainerTarget raw) := by
  have hget : (modernContainer raw).get "target" = modernContainerTarget raw := by
    rw [Dict.get, get?_modernContainer, if_pos rfl, Option.getD_some]
  rw [containerTargetRaw, hget]
  split
  · next hnull => exact absurd hnull (modernContainerTarget_ne_null raw)
  · rfl

/-- What is no list of groups makes no target. -/
theorem canonicalTarget_no_groups {groups : Json} (h : ∀ g gs, groups ≠ .arr (g :: gs)) :
    ∃ e, canonicalTarget (groupsJson groups) = .error e := by
  have hvalue : Dict.get [(.str "kind", .str "groups"), (.str "value", groups)] "value" = groups := by
    simp [Dict.get]
  cases groups with
  | arr items =>
    cases items with
    | nil => exact ⟨_, rfl⟩
    | cons g gs => exact absurd rfl (h g gs)
  | _ => exact ⟨_, rfl⟩

/-- **The target of a container is read as its modern form, the field `groups` included.** -/
theorem containerScope_modern (raw : Dict) :
    Alike (canonicalOffsetGroupContainerTarget (modernContainerTarget raw))
      (containerTargetRaw raw >>= canonicalOffsetGroupContainerTarget) := by
  unfold modernContainerTarget containerTargetRaw
  cases raw.get "target" with
  | null =>
    dsimp only
    unfold migrateLegacyOffsetGroupGroupsField
    dsimp only
    by_cases hall : namesAll (raw.get "groups")
    · rw [if_pos hall, if_pos (show raw.get "groups" = .str "all" ∨ _ from hall)]
      exact Alike.refl _
    · rw [if_neg hall, if_neg (show ¬ (raw.get "groups" = .str "all" ∨ _) from hall)]
      split
      · next g gs hgroups =>
        rw [hgroups]
        exact Alike.refl _
      · next hno =>
        obtain ⟨e, he⟩ := canonicalTarget_no_groups fun g gs hgroups => hno g gs hgroups
        rw [canonicalOffsetGroupContainerTarget, he]
        exact Alike.errors
  | _ => exact containerTarget_modern _

theorem actions_modern (raw : Dict) :
    ((modernContainer raw).get "actions").orElse (.arr []) =
      match (raw.get "actions").orElse (.arr []) with
      | .arr children => .arr (children.map modernChild)
      | other => other := by
  rw [Dict.get, get?_modernContainer, if_neg (by decide), if_neg (by decide)]
  cases hactions : raw.get "actions" with
  | arr children => cases children <;> rfl
  | _ =>
    show (raw.get "actions").orElse (.arr []) = _
    rw [hactions]
    unfold Json.orElse
    split <;> rfl

theorem container_modern (raw : Dict) :
    Alike (canonicalOffsetGroupAction (modernContainer raw)) (canonicalOffsetGroupAction raw) := by
  have hoffset : (modernContainer raw).get "offset" = raw.get "offset" := by
    rw [Dict.get, get_modernContainer raw (by decide) (by decide) (by decide), Dict.get]
  have hscope : ∀ {β : Type} (f : Target → Except PyError β), (do
      let target ← canonicalOffsetGroupContainerTarget (← containerTargetRaw raw)
      f target) = (containerTargetRaw raw >>= canonicalOffsetGroupContainerTarget) >>= f := fun f => by
    cases containerTargetRaw raw <;> rfl
  unfold canonicalOffsetGroupAction
  rw [hscope, containerTargetRaw_modern, ok_bind, hoffset, actions_modern]
  refine (containerScope_modern raw).bind fun target _ => Alike.guard (Alike.bind (Alike.refl _) fun offset _ => ?_)
  cases (raw.get "actions").orElse (.arr []) with
  | arr children =>
    dsimp only
    rw [List.length_map]
    exact Alike.guard ((Alike.mapM fun child _ => child_modern target.groupIds child).bind fun _ _ => Alike.refl _)
  | _ => exact Alike.refl _

/-! ### Actions -/

theorem refuseStray_congr {raw raw' : Dict} (what : String) {strays : List String}
    (h : ∀ stray ∈ strays, raw'.has stray = raw.has stray) : refuseStray what raw' strays = refuseStray what raw strays := by
  induction strays with
  | nil => rfl
  | cons stray rest ih =>
    rw [refuseStray, refuseStray, h stray (List.mem_cons_self ..), ih fun s hs => h s (List.mem_cons_of_mem stray hs)]

theorem requiredTarget_modern (raw : Dict) : Alike (requiredTarget (withModernTarget raw)) (requiredTarget raw) := by
  unfold requiredTarget
  rw [has_withModernTarget, get_withModernTarget raw (show "kind" ≠ "target" by decide)]
  by_cases htarget : raw.has "target" = false
  · rw [if_pos htarget, if_pos htarget]
    exact Alike.refl _
  · rw [if_neg htarget, if_neg htarget, target_withModernTarget (by simpa using htarget)]
    exact canonicalTarget_modern _

theorem effect_modern (kind : EffectKind) (raw : Dict) :
    Alike (canonicalEffectAction kind (withModernTarget raw)) (canonicalEffectAction kind raw) := by
  unfold canonicalEffectAction
  rw [get_withModernTarget raw (show "params" ≠ "target" by decide),
    get_withModernTarget raw (show "flags_override" ≠ "target" by decide)]
  exact (requiredTarget_modern raw).bind fun _ _ => Alike.refl _

theorem startblock_modern (raw : Dict) :
    Alike (canonicalStartblockAction (withModernTarget raw)) (canonicalStartblockAction raw) := by
  unfold canonicalStartblockAction
  rw [get_withModernTarget raw (show "params" ≠ "target" by decide)]
  exact (requiredTarget_modern raw).bind fun _ _ => Alike.refl _

/-- An action that is no container is read as it is with its target rewritten. -/
theorem action_modern {raw : Dict} (hkind : raw.get "kind" ≠ .str "offset_group") :
    Alike (canonicalModernAction (withModernTarget raw)) (canonicalModernAction raw) := by
  have hstray : ∀ what strays, refuseStray what (withModernTarget raw) strays = refuseStray what raw strays :=
    fun what strays => refuseStray_congr what fun stray _ => has_withModernTarget raw stray
  have hduration : (withModernTarget raw).getD "duration_ms" (.int 0) = raw.getD "duration_ms" (.int 0) := by
    rw [Dict.getD, get?_withModernTarget, if_neg (by decide), Dict.getD]
  unfold canonicalModernAction
  rw [get_withModernTarget raw (show "kind" ≠ "target" by decide)]
  split
  · next heq => exact absurd heq hkind
  · rw [canonicalDelayAction, canonicalDelayAction, hduration, hstray]
    exact Alike.refl _
  · rw [canonicalSyncAction, canonicalSyncAction, hstray]
    exact Alike.refl _
  · exact effect_modern .rlPreset raw
  · exact effect_modern .wledPreset raw
  · exact effect_modern .rlEffect raw
  · exact startblock_modern raw
  · exact Alike.refl _

theorem canonicalModernAction_container {raw : Dict} (hkind : raw.get "kind" = .str "offset_group") :
    canonicalModernAction raw =
      (refuseStray "offset_group" raw ["params", "flags_override", "duration_ms"] >>= fun _ =>
        canonicalOffsetGroupAction raw) := by
  simp only [canonicalModernAction, hkind]

/-- A container is read as it is with its targets rewritten. -/
theorem containerAction_modern {raw : Dict} (hkind : raw.get "kind" = .str "offset_group") :
    Alike (canonicalModernAction (modernContainer raw)) (canonicalModernAction raw) := by
  have hfield : ∀ key, key ≠ "target" → key ≠ "groups" → key ≠ "actions" →
      (modernContainer raw).get? key = raw.get? key := fun key => get_modernContainer raw
  have hkind' : (modernContainer raw).get "kind" = .str "offset_group" := by
    rw [Dict.get, hfield "kind" (by decide) (by decide) (by decide)]
    exact hkind
  rw [canonicalModernAction_container hkind, canonicalModernAction_container hkind', refuseStray_congr]
  · exact (Alike.refl _).bind fun _ _ => container_modern raw
  · intro stray hstray
    rw [Dict.has, Dict.has, hfield stray]
    all_goals
      intro heq
      rw [heq] at hstray
      revert hstray
      decide

end RaceLink.Scenes
