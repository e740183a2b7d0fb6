import RaceLink.Library.Except
import RaceLink.Scenes.Action
import Mathlib.Data.List.Sort

/-! The validator of scene actions (`services/scenes_service.py`): raw JSON in,
a stored action or an exception out. The legacy shims run first, as in the
source; every check keeps its place, since which error is raised depends on it. -/
namespace RaceLink.Scenes
open Python Domain

def MAX_ACTIONS_PER_SCENE : Nat := 20
def MAX_DELAY_MS : Int := 60000
/-- 255 is the broadcast group, not a target. -/
def GROUP_ID_MAX : Int := 254
def MAX_GROUPS_OFFSET_ENTRIES : Nat := 64
def MAX_OFFSET_GROUP_CHILDREN : Nat := 16
def OFFSET_MS_MIN : Int := 0
def OFFSET_MS_MAX : Int := 0xFFFF
def OFFSET_BASE_MIN : Int := -32768
def OFFSET_BASE_MAX : Int := 32767
def OFFSET_STEP_MIN : Int := -32768
def OFFSET_STEP_MAX : Int := 32767
def OFFSET_CYCLE_MIN : Int := 1
def OFFSET_CYCLE_MAX : Int := 255

/-! ### Targets -/

/-- `_migrate_legacy_target`. -/
def migrateLegacyTarget (raw : Json) : Except PyError Json :=
  match raw with
  | .obj target =>
    match Dict.get target "kind" with
    | .str "scope" => .ok (dict [("kind", .str "broadcast")])
    | .str "group" =>
      match (Dict.get target "value").toInt with
      | .ok v => .ok (dict [("kind", .str "groups"), ("value", .arr [.int v])])
      | .error .overflowError => .error .overflowError
      -- A TypeError or ValueError passes the target on, for the validator to refuse.
      | .error _ => .ok raw
    | _ => .ok raw
  | _ => .ok raw

/-- The loop of `_canonical_target` over the ids of a groups target. `ids` holds
the ids taken so far, which are also those of the set `seen`. -/
def collectGroupIds (ids : List Int) : List Json → Except PyError (List Int)
  | [] => .ok ids
  | entry :: rest => do
    let v ← entry.toIntOr (.valueError "target.value[*] for groups must be int: %r" [entry])
    if v < 0 ∨ v > GROUP_ID_MAX then
      .error (.valueError "group id %s out of range [0..254]" [.int v])
    else if v ∈ ids then .error (.valueError "target.value duplicate group id %s" [.int v])
    else collectGroupIds (ids ++ [v]) rest

/-- `list.sort()` on ids. -/
def sortIds (ids : List Int) : List Int := ids.insertionSort (· ≤ ·)

/-- `_MAC12_RE`. -/
def isMac12 (v : String) : Bool :=
  v.toList.length == 12 &&
    v.toList.all fun c => ('0' ≤ c && c ≤ '9') || ('A' ≤ c && c ≤ 'F')

/-- `_canonical_target`. -/
def canonicalTarget (raw : Json) : Except PyError Target := do
  match ← migrateLegacyTarget raw with
  | .obj target =>
    match Dict.get target "kind" with
    | .str "broadcast" => .ok .broadcast
    | .str "groups" =>
      match Dict.get target "value" with
      | .arr (entry :: rest) => do
        let ids ← collectGroupIds [] (entry :: rest)
        .ok (.groups (sortIds ids))
      | _ => .error (.valueError
          "target.value for groups must be a non-empty list of int group ids" [])
    | .str "device" =>
      match Dict.get target "value" with
      | .str value =>
        let v := upper (strip value)
        if isMac12 v then .ok (.device v)
        else .error (.valueError "invalid device address %r: expected 12-char hex" [.str value])
      | _ => .error (.valueError "target.value for device must be a 12-char MAC hex string" [])
    | kind => .error (.valueError
        "invalid target kind %r (expected 'broadcast', 'groups', or 'device')" [kind])
  | _ => .error (.valueError "target must be a dict with 'kind'" [])

/-- `_canonical_offset_group_container_target`. -/
def canonicalOffsetGroupContainerTarget (raw : Json) : Except PyError Target := do
  match ← canonicalTarget raw with
  | .device _ => .error (.valueError
      "offset_group container target cannot be 'device' (offset is per-group); use 'groups' or 'broadcast'"
      [])
  | target => .ok target

/-- The participants of a container as its children see them: a list of ids, or
`none` for the string `"all"` (and for `groups_is_all`). -/
def Target.groupIds : Target → Option (List Int)
  | .groups value => some value
  | _ => none

/-- The loop of `_canonical_offset_group_child_target`. -/
def checkSubset (parentGroups : List Int) : List Int → Except PyError Unit
  | [] => .ok ()
  | v :: rest =>
    if v ∉ parentGroups then
      .error (.valueError "child target group %s is not in the offset_group's participating groups %s"
        [.int v, .arr (parentGroups.map .int)])
    else checkSubset parentGroups rest

/-- `_canonical_offset_group_child_target`. -/
def canonicalOffsetGroupChildTarget (parentGroups : Option (List Int)) (raw : Json) :
    Except PyError Target := do
  let target ← canonicalTarget raw
  match target, parentGroups with
  | .groups value, some groups => do
    checkSubset groups value
    .ok target
  | _, _ => .ok target

/-! ### Effects -/

/-- One key of the loop of `_canonical_flags_override`. -/
def flagOf (raw : Dict) (flag : UserFlag) : Option Bool := (raw.get? flag.key).map Json.truthy

/-- `_canonical_flags_override`. -/
def canonicalFlagsOverride (raw : Json) : Except PyError FlagsOverride :=
  match raw.orElse (.obj []) with
  | .obj fields => .ok {
      armOnSync := flagOf fields .armOnSync
      forceTt0 := flagOf fields .forceTt0
      forceReapply := flagOf fields .forceReapply
      offsetMode := flagOf fields .offsetMode }
  | _ => .error (.valueError "flags_override must be a dict or absent" [])

/-- The `params` of an action: a copy of the dict, empty when absent. -/
def canonicalParams (text : String) (raw : Json) : Except PyError Dict :=
  match raw with
  | .null => .ok []
  | .obj fields => .ok fields
  | _ => .error (.valueError text [])

/-- The effect kind a `kind` value names. -/
def effectKind? : Json → Option EffectKind
  | .str "rl_preset" => some .rlPreset
  | .str "rl_effect" => some .rlEffect
  | .str "wled_preset" => some .wledPreset
  | _ => none

/-- `_canonical_offset_group_child`. -/
def canonicalOffsetGroupChild (parentGroups : Option (List Int)) (raw : Json) :
    Except PyError Effect :=
  match raw with
  | .obj fields =>
    match effectKind? (Dict.get fields "kind") with
    | none => .error (.valueError
        "offset_group child kind %r not in ('rl_preset', 'rl_effect', 'wled_preset')"
        [Dict.get fields "kind"])
    | some kind =>
      if Dict.has fields "target" = false then
        .error (.valueError "offset_group child %r requires a target" [Dict.get fields "kind"])
      else do
        let target ← canonicalOffsetGroupChildTarget parentGroups (Dict.get fields "target")
        let params ← canonicalParams "offset_group child params must be a dict or absent"
          (Dict.get fields "params")
        let flagsOverride ← canonicalFlagsOverride (Dict.get fields "flags_override")
        .ok { kind, target, params, flagsOverride }
  | _ => .error (.valueError "offset_group child must be a dict" [])

/-! ### Offset blocks -/

/-- `_validate_int`; `name` is the field path of the error. -/
def validateInt (name : String) (raw : Json) (lo hi : Int) : Except PyError Int := do
  let v ← raw.toIntOr (.valueError (name ++ " must be int") [])
  if v < lo ∨ v > hi then
    .error (.valueError (name ++ " %s out of [%s..%s]") [.int v, .int lo, .int hi])
  else .ok v

/-- One entry of an explicit table. -/
def canonicalOffsetEntry (groupIds : List Int) (raw : Json) : Except PyError OffsetEntry :=
  match raw with
  | .obj entry => do
    let gid ← validateInt "groups_offset.offset.values[].id" (Dict.get entry "id") 0 GROUP_ID_MAX
    if gid ∉ groupIds then
      .error (.valueError "groups_offset.offset.values references id %s not in groups" [.int gid])
    else do
      let ms ← validateInt "groups_offset.offset.values[].offset_ms" (Dict.get entry "offset_ms")
        OFFSET_MS_MIN OFFSET_MS_MAX
      .ok ⟨gid, ms⟩
  | _ => .error (.valueError "groups_offset.offset.values entries must be dicts" [])

/-- `canonical_values.sort(key=lambda e: e["id"])`. -/
def sortEntries (values : List OffsetEntry) : List OffsetEntry :=
  values.insertionSort (·.id ≤ ·.id)

/-- `_canonical_offset_block`; `groupIds` is `none` for a broadcast container. -/
def canonicalOffsetBlock (groupIds : Option (List Int)) (raw : Json) : Except PyError OffsetBlock :=
  match raw with
  | .obj block =>
    match Dict.get block "mode" with
    | .str "none" => .ok .none
    | .str "explicit" =>
      match groupIds with
      | none => .error (.valueError
          "groups_offset.offset.mode=\"explicit\" requires a concrete groups list" [])
      | some ids =>
        match Dict.get block "values" with
        | .arr rawValues =>
          if rawValues.length ≠ ids.length then .error (valuesError)
          else do
            let values ← rawValues.mapM (canonicalOffsetEntry ids)
            .ok (.explicit (sortEntries values))
        | _ => .error valuesError
    | .str "linear" => do
      let (base, step) ← baseAndStep block
      .ok (.linear base step)
    | .str "vshape" => do
      let (base, step) ← baseAndStep block
      let center ← validateInt "groups_offset.offset.center" (Dict.getD block "center" (.int 0))
        0 GROUP_ID_MAX
      .ok (.vshape base step center)
    | .str "modulo" => do
      let (base, step) ← baseAndStep block
      let cycle ← validateInt "groups_offset.offset.cycle" (Dict.getD block "cycle" (.int 1))
        OFFSET_CYCLE_MIN OFFSET_CYCLE_MAX
      .ok (.modulo base step cycle)
    | mode => .error (.valueError
        "groups_offset.offset.mode %r not in ('none', 'explicit', 'linear', 'vshape', 'modulo')"
        [mode])
  | _ => .error (.valueError "groups_offset.offset must be a dict" [])
where
  valuesError : PyError := .valueError
    "groups_offset.offset.values must be a list of \x7bid, offset_ms\x7d entries, one per group" []
  /-- The formula modes share `base_ms` and `step_ms`. -/
  baseAndStep (block : Dict) : Except PyError (Int × Int) := do
    let base ← validateInt "groups_offset.offset.base_ms" (Dict.getD block "base_ms" (.int 0))
      OFFSET_BASE_MIN OFFSET_BASE_MAX
    let step ← validateInt "groups_offset.offset.step_ms" (Dict.getD block "step_ms" (.int 0))
      OFFSET_STEP_MIN OFFSET_STEP_MAX
    .ok (base, step)

/-! ### Containers -/

/-- `_migrate_legacy_offset_group_groups_field`. -/
def migrateLegacyOffsetGroupGroupsField (raw : Dict) : Except PyError Json :=
  let legacyGroups := raw.get "groups"
  if legacyGroups = .str "all" ∨ legacyGroups.eqInt 255 = true then
    .ok (dict [("kind", .str "broadcast")])
  else match legacyGroups with
    | .arr (g :: gs) => .ok (dict [("kind", .str "groups"), ("value", .arr (g :: gs))])
    | _ => .error (.valueError
        "offset_group requires a \"target\" field; legacy \"groups\" is missing or invalid: %r"
        [legacyGroups])

/-- The target a container is validated with: its own, or one made of the legacy field. -/
def containerTargetRaw (raw : Dict) : Except PyError Json :=
  match raw.get "target" with
  | .null => migrateLegacyOffsetGroupGroupsField raw
  | target => .ok target

/-- `_canonical_offset_group_action`. -/
def canonicalOffsetGroupAction (raw : Dict) : Except PyError Action := do
  let target ← canonicalOffsetGroupContainerTarget (← containerTargetRaw raw)
  if (target.groupIds.getD []).length > MAX_GROUPS_OFFSET_ENTRIES then
    .error (.valueError "offset_group has %s entries; max is 64"
      [.int (target.groupIds.getD []).length])
  else do
    let offset ← canonicalOffsetBlock target.groupIds (raw.get "offset")
    match (raw.get "actions").orElse (.arr []) with
    | .arr rawChildren =>
      if rawChildren.length > MAX_OFFSET_GROUP_CHILDREN then
        .error (.valueError "offset_group has %s children; max is 16" [.int rawChildren.length])
      else do
        let children ← rawChildren.mapM (canonicalOffsetGroupChild target.groupIds)
        .ok (.offsetGroup target offset children)
    | _ => .error (.valueError "offset_group.actions must be a list" [])

/-! ### The removed `groups_offset` target -/

/-- `_is_legacy_groups_offset_target`, on a dict. -/
def isLegacyGroupsOffsetTarget (raw : Dict) : Bool :=
  match raw.get "target" with
  | .obj target => Dict.get target "kind" == .str "groups_offset"
  | _ => false

/-- The groups and the offset of a legacy target. -/
def legacyGroupsAndOffset (legacyTarget : Dict) : Except PyError (Json × Json) :=
  match legacyTarget.get "groups" with
  | .arr (.obj d :: rest) => do
    -- pre-formula: a list of {id, offset_ms}
    let ids ← (.obj d :: rest).mapM fun e => do (← e.attrGet "id").toInt
    let hints := (legacyTarget.get "ui_hints").orElse (.obj [])
    let base ← hints.attrGet "base_ms"
    let step ← hints.attrGet "step_ms"
    if (← hints.attrGet "mode") = .str "linear" ∧ base ≠ .null ∧ step ≠ .null then do
      let base ← base.toInt
      let step ← step.toInt
      .ok (.arr (ids.map .int),
        dict [("mode", .str "linear"), ("base_ms", .int base), ("step_ms", .int step)])
    else do
      let values ← (.obj d :: rest).mapM legacyEntry
      .ok (.arr (ids.map .int), dict [("mode", .str "explicit"), ("values", .arr values)])
  | groups =>
    -- post-formula: groups and offset as they are
    let offset := (legacyTarget.get "offset").orElse (dict [("mode", .str "none")])
    if groups = .str "all" ∨ groups.eqInt 255 = true then .ok (.str "all", offset)
    else .ok (groups, offset)
where
  legacyEntry (raw : Json) : Except PyError Json :=
    match raw with
    | .obj d => do
      let gid ← (Dict.get d "id").toInt
      let ms ← (Dict.getD d "offset_ms" (.int 0)).toInt
      .ok (dict [("id", .int gid), ("offset_ms", .int ms)])
    | _ => .error .attributeError

/-- `_migrate_legacy_groups_offset_action`. -/
def migrateLegacyGroupsOffsetAction (raw : Dict) : Except PyError Dict := do
  let legacyTarget := match raw.get "target" with
    | .obj target => target
    | _ => []
  let (groups, offset) ← legacyGroupsAndOffset legacyTarget
  let params ← ((raw.get "params").orElse (.obj [])).toDict
  let flagsOverride ← ((raw.get "flags_override").orElse (.obj [])).toDict
  let child := dict [("kind", raw.get "kind"), ("target", dict [("kind", .str "broadcast")]),
    ("params", .obj params), ("flags_override", .obj flagsOverride)]
  let containerTarget ←
    if groups = .str "all" then .ok (dict [("kind", .str "broadcast")])
    else do
      let value ← groups.toList
      .ok (dict [("kind", .str "groups"), ("value", .arr value)])
  .ok [(.str "kind", .str "offset_group"), (.str "target", containerTarget),
    (.str "offset", offset), (.str "actions", .arr [child])]

/-- The dict `_canonical_action` goes on with. -/
def modernAction (raw : Dict) : Except PyError Dict :=
  if isLegacyGroupsOffsetTarget raw then migrateLegacyGroupsOffsetAction raw else .ok raw

/-! ### Actions -/

/-- Refuses the first of the fields that the action carries. -/
def refuseStray (what : String) (raw : Dict) : List String → Except PyError Unit
  | [] => .ok ()
  | stray :: rest =>
    if raw.has stray = true then
      .error (.valueError (what ++ " action must not carry '%s'") [.str stray])
    else refuseStray what raw rest

/-- The target of an action that needs one. -/
def requiredTarget (raw : Dict) : Except PyError Target :=
  if raw.has "target" = false then
    .error (.valueError "action kind %r requires a 'target'" [raw.get "kind"])
  else canonicalTarget (raw.get "target")

def canonicalEffectAction (kind : EffectKind) (raw : Dict) : Except PyError Action := do
  let target ← requiredTarget raw
  let params ← canonicalParams "params must be a dict or absent" (raw.get "params")
  let flagsOverride ← canonicalFlagsOverride (raw.get "flags_override")
  .ok (.effect { kind, target, params, flagsOverride })

/-- Startblock has no flags; a `flags_override` on it is ignored. -/
def canonicalStartblockAction (raw : Dict) : Except PyError Action := do
  let target ← requiredTarget raw
  let params ← canonicalParams "params must be a dict or absent" (raw.get "params")
  .ok (.startblock target params)

def canonicalDelayAction (raw : Dict) : Except PyError Action := do
  let dur ← (raw.getD "duration_ms" (.int 0)).toIntOr (.valueError "delay.duration_ms must be int" [])
  if dur < 0 ∨ dur > MAX_DELAY_MS then
    .error (.valueError "delay duration_ms %s out of [0..60000]" [.int dur])
  else do
    refuseStray "delay" raw ["target", "params", "flags_override"]
    .ok (.delay dur)

def canonicalSyncAction (raw : Dict) : Except PyError Action := do
  refuseStray "sync" raw ["target", "params", "flags_override", "duration_ms"]
  .ok .sync

/-- The dispatch of `_canonical_action` on the kind, after the legacy shim. -/
def canonicalModernAction (raw : Dict) : Except PyError Action :=
  match raw.get "kind" with
  | .str "offset_group" => do
    refuseStray "offset_group" raw ["params", "flags_override", "duration_ms"]
    canonicalOffsetGroupAction raw
  | .str "delay" => canonicalDelayAction raw
  | .str "sync" => canonicalSyncAction raw
  | .str "rl_preset" => canonicalEffectAction .rlPreset raw
  | .str "wled_preset" => canonicalEffectAction .wledPreset raw
  | .str "rl_effect" => canonicalEffectAction .rlEffect raw
  | .str "startblock" => canonicalStartblockAction raw
  | kind => .error (.valueError
      "invalid action kind %r; expected one of ('rl_preset', 'rl_effect', 'wled_preset', 'startblock', 'sync', 'delay', 'offset_group')"
      [kind])

/-- `_canonical_action`. -/
def canonicalAction (raw : Json) : Except PyError Action :=
  match raw with
  | .obj fields => do canonicalModernAction (← modernAction fields)
  | _ => .error (.valueError "action must be a dict" [])

/-- `_canonical_actions`. -/
def canonicalActions (raw : Json) : Except PyError (List Action) :=
  match raw with
  | .null => .ok []
  | .arr items =>
    if items.length > MAX_ACTIONS_PER_SCENE then
      .error (.valueError "too many actions: %s > 20" [.int items.length])
    else items.mapM canonicalAction
  | _ => .error (.valueError "actions must be a list" [])

end RaceLink.Scenes
