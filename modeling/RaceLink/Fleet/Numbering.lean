import RaceLink.Fleet.Groups
import RaceLink.Gateways.Networks
import RaceLink.Library.Reindex
import RaceLink.Scenes.Failures
import RaceLink.Scenes.Rewriting

/-! Groups are known by their index: deleting a group and putting the groups in a new
order (`web/api.py`) renumber the devices and the scenes along with the list.

The scenes are rewritten by a service of their own, which may raise; the routes go on. -/
namespace RaceLink.Fleet
open Python Library Domain Gateways

/-- What the routes work on: the repositories, and the scene service. -/
structure Site where
  fleet : State
  scenes : Scenes.Service

/-- `require_int`, without bounds. -/
def requireInt (body : Json) (key label : String) : Except ApiError Int :=
  match body with
  | .obj fields =>
    match Dict.get? fields key with
    | none => .error (.refused 400 "missing field: %s" [.str label] [])
    | some .null => .error (.refused 400 "field %s must not be null" [.str label] [])
    | some raw =>
      match raw.toInt with
      | .ok value => .ok value
      | .error .overflowError => .error (.raised .overflowError)
      | .error _ => .error (.refused 400 "field %s must be an integer, got %r" [.str label, raw] [])
  | _ => .error (.refused 400 "missing field: %s" [.str label] [])

/-- Every device is put in the group with the new number of its own. -/
def renumberDevices (s : State) (f : Int → Int) : State :=
  {s with devices := s.devices.map fun d => {d with groupId := f d.groupId}}

/-! ### Deleting a group -/

structure DeleteCounts where
  movedDevices : Nat
  renumberedDevices : Nat
  renumberedScenes : Nat
deriving DecidableEq, Repr

/-- `api_groups_delete` once the request is checked. A rewrite of the scenes that raises is
logged. -/
def deleteGroup (keyText : Key → String) (env : Scenes.Env) (w : Site) (gid : Int) : DeleteCounts × Site :=
  let devices := w.fleet.devices
  let fleet := renumberDevices w.fleet (Scenes.shiftGroupValue gid)
  let (rewritten, scenes) := Scenes.renumberGroupReferences keyText env w.scenes gid
  ({movedDevices := (devices.filter (·.groupId = gid)).length
    renumberedDevices := (devices.filter (·.groupId > gid)).length
    renumberedScenes := rewritten.toOption.getD 0},
   {fleet := {fleet with groups := fleet.groups.eraseIdx gid.toNat}.save, scenes})

/-- `api_groups_delete`. -/
def apiGroupsDelete (keyText : Key → String) (env : Scenes.Env) (w : Site) (body : Json) :
    Except ApiError DeleteCounts × Site :=
  match requireInt (body.orElse (.obj [])) "id" "group id" with
  | .error e => (.error e, w)
  | .ok gid =>
    if gid < 0 ∨ gid ≥ w.fleet.groups.length then (.error (.refused 400 "invalid group id" [] []), w)
    else
      match w.fleet.groups[gid.toNat]? with
      | none => (.error (.refused 400 "invalid group id" [] []), w)
      | some group =>
        if group.staticGroup ≠ 0 then (.error (.refused 400 "static group" [] []), w)
        else
          let (counts, w) := deleteGroup keyText env w gid
          (.ok counts, w)

/-! ### A new order -/

/-- What a resort answers: the rewritten scenes, and the groups that moved. -/
structure ResortAnswer where
  scenesChanged : Nat
  mapping : List (Int × Int)
deriving DecidableEq, Repr

/-- The ids of a requested order. -/
def requestedOrder (raw : Json) : Except ApiError (List Int) :=
  match raw with
  | .arr entries =>
    match entries.mapM Json.toInt with
    | .ok order => .ok order
    | .error .overflowError => .error (.raised .overflowError)
    | .error _ => .error (.refused 400 "order entries must be integers" [] [])
  | _ => .error (.refused 400 "order must be a list of group ids" [] [])

/-- The loop over the new places: group 0 and static groups keep theirs. -/
def checkAnchors (groups : List GroupRecord) (newIdx : Int) : List Int → Except ApiError Unit
  | [] => .ok ()
  | oldGid :: rest =>
    if oldGid = 0 ∧ newIdx ≠ 0 then
      .error (.refused 400 "group 0 (Unconfigured) must stay at the top" [] [])
    else if (groups[oldGid.toNat]?.any fun group => group.staticGroup ≠ 0) ∧ newIdx ≠ oldGid then
      .error (.refused 400 "static group %s cannot be moved" [.int oldGid] [])
    else checkAnchors groups (newIdx + 1) rest

/-- What a resort is checked for before it changes anything. -/
def checkResort (groups : List GroupRecord) (raw : Json) : Except ApiError (List Int) := do
  let order ← requestedOrder raw
  if Scenes.sortIds order ≠ (List.range groups.length).map Int.ofNat then
    .error (.refused 400 "order must be a permutation of all current group ids" [] [])
  else do
    checkAnchors groups 0 order
    .ok order

/-- `api_groups_resort` once the request is checked. -/
def resortGroups (keyText : Key → String) (env : Scenes.Env) (w : Site) (order : List Int)
    (carryRefs : Bool) : ResortAnswer × Site :=
  let mapping := places order
  if mapping.all fun (old, new) => old = new then ({scenesChanged := 0, mapping := []}, w)
  else
    let fleet := renumberDevices {w.fleet with groups := reorder order w.fleet.groups}
      (Scenes.mapGroupValue mapping)
    let (rewritten, scenes) :=
      if carryRefs then Scenes.remapGroupIds keyText env w.scenes mapping else (.ok 0, w.scenes)
    ({scenesChanged := rewritten.toOption.getD 0, mapping := mapping.filter fun (old, new) => old ≠ new},
     {fleet := fleet.save, scenes})

/-- `bool(body.get("carry_scene_references", True))`. -/
def carryReferences (fields : Dict) : Bool := (Dict.getD fields "carry_scene_references" (.bool true)).truthy

/-- `api_groups_resort`. -/
def apiGroupsResort (keyText : Key → String) (env : Scenes.Env) (w : Site) (body : Json) :
    Except ApiError ResortAnswer × Site :=
  match body.orElse (.obj []) with
  | .obj fields =>
    match checkResort w.fleet.groups (Dict.get fields "order") with
    | .error e => (.error e, w)
    | .ok order =>
      let (answer, w) := resortGroups keyText env w order (carryReferences fields)
      (.ok answer, w)
  | _ => (.error (.raised .attributeError), w)

end RaceLink.Fleet
