import RaceLink.Scenes.Persistence

/-! A scene in the editor (`frontend/src/stores/scenes.ts`): the draft that is made of a stored scene, and
the body that saves it.

Objects are dicts, as in JSON; a field that is undefined is left out, which is how it reads and how it is
sent. What is below `target`, `params`, `flags_override` and `offset` is copied as it is. -/
namespace RaceLink.Web.Editor
open Python Library Scenes

/-! ### Objects -/

/-- An object literal. -/
def object (fields : List (String × Option Json)) : Json :=
  .obj (fields.filterMap fun e => e.2.map fun value => (.str e.1, value))

/-- Whether a field counts as true in a condition: any object does, an empty one too. -/
def truthy : Option Json → Bool
  | none => false
  | some (.arr _) => true
  | some (.obj _) => true
  | some x => x.truthy && x != .float .nan

/-- `{ ...x }`, of an object. -/
def spread : Json → Json
  | .obj fields => .obj fields
  | _ => .obj []

/-- `x ? { ...x } : undefined`. -/
def copied (x : Option Json) : Option Json := if truthy x then x.map spread else none

/-- `typeof x === 'number' ? x : 0`. -/
def numberOrZero : Option Json → Json
  | some (.int n) => .int n
  | some (.float x) => .float x
  | _ => .int 0

mutual
/-- A conversion of actions: `step` is given an object and its converted `actions`, if they are a list. -/
def convert (step : Dict → Option (List Json) → Json) : Json → Json
  | .obj fields => step fields (convertChildren step fields)
  | x => x

def convertChildren (step : Dict → Option (List Json) → Json) : List (Key × Json) → Option (List Json)
  | [] => none
  | (k, v) :: rest => if k = .str "actions" then convertItems step v else convertChildren step rest

def convertItems (step : Dict → Option (List Json) → Json) : Json → Option (List Json)
  | .arr items => some (convertList step items)
  | _ => none

def convertList (step : Dict → Option (List Json) → Json) : List Json → List Json
  | [] => []
  | x :: rest => convert step x :: convertList step rest
end

/-! ### From the server to the draft -/

/-- An object for the draft. -/
def adoptFields (raw : Dict) (children : Option (List Json)) : Json :=
  match Dict.get? raw "kind" with
  | some (.str "delay") =>
    object [("kind", some (.str "delay")),
      ("params", some (object [("duration_ms", some (numberOrZero (Dict.get? raw "duration_ms")))]))]
  | some (.str "sync") => object [("kind", some (.str "sync"))]
  | some (.str "offset_group") =>
    object [("kind", some (.str "offset_group")), ("target", copied (Dict.get? raw "target")),
      ("offset", if truthy (Dict.get? raw "offset") then Dict.get? raw "offset" else none),
      ("actions", some (.arr (children.getD [])))]
  | kind =>
    object [("kind", kind),
      ("target", if truthy (Dict.get? raw "target") then Dict.get? raw "target" else none),
      ("params", some ((copied (Dict.get? raw "params")).getD (.obj []))),
      ("flags_override", copied (Dict.get? raw "flags_override"))]

/-- `adoptAction`. -/
def adoptAction : Json → Json := convert adoptFields

/-! ### From the draft to the server -/

section Emit
variable (numberOfString : String → Json)

/-- `Number(x)`; `numberOfString` reads a string. -/
def toNumber : Option Json → Json
  | some (.int n) => .int n
  | some (.float x) => .float x
  | some (.bool b) => .int (if b then 1 else 0)
  | some (.str s) => numberOfString s
  | some .null => .int 0
  | _ => .float .nan

/-- `Number.isFinite`. -/
def isFinite : Json → Bool
  | .int _ => true
  | .float (.finite _) => true
  | _ => false

/-- `x?.key`. -/
def fieldOf (x : Option Json) (key : String) : Option Json :=
  match x with
  | some (.obj fields) => Dict.get? fields key
  | _ => none

/-- `Object.keys(x).length > 0`. -/
def hasKeys : Option Json → Bool
  | some (.obj fields) => !fields.isEmpty
  | _ => false

/-- An object for the server. -/
def emitFields (action : Dict) (children : Option (List Json)) : Json :=
  match Dict.get? action "kind" with
  | some (.str "delay") =>
    let ms := toNumber numberOfString (fieldOf (Dict.get? action "params") "duration_ms")
    object [("kind", some (.str "delay")), ("duration_ms", some (if isFinite ms then ms else .int 0))]
  | some (.str "sync") => object [("kind", some (.str "sync"))]
  | some (.str "offset_group") =>
    object [("kind", some (.str "offset_group")), ("target", Dict.get? action "target"),
      ("offset", Dict.get? action "offset"), ("actions", some (.arr (children.getD [])))]
  | kind =>
    object [("kind", kind), ("target", Dict.get? action "target"),
      ("params", some (((Dict.get? action "params").map spread).getD (.obj []))),
      ("flags_override",
        if hasKeys (Dict.get? action "flags_override") then copied (Dict.get? action "flags_override") else none)]

/-- `emitAction`. -/
def emitAction : Json → Json := convert (emitFields numberOfString)

/-! ### Scenes -/

/-- `SceneDraft`. -/
structure SceneDraft where
  key : Option Json
  label : Json
  stopOnError : Bool
  networkScope : Json
  actions : List Json
deriving DecidableEq, Repr

/-- `normalizeScopeForDraft`. -/
def normalizeScopeForDraft (raw : Option Json) : Json :=
  if truthy raw && fieldOf raw "mode" == some (.str "explicit") then
    dict [("mode", .str "explicit"), ("network_ids", match fieldOf raw "network_ids" with
      | some (.arr ids) => .arr ids
      | _ => .arr [])]
  else dict [("mode", .str "auto")]

/-- `sceneToDraft`. -/
def sceneToDraft (scene : Json) : SceneDraft where
  key := fieldOf (some scene) "key"
  label := match fieldOf (some scene) "label" with
    | some label => if truthy (some label) then label else .str ""
    | none => .str ""
  stopOnError := truthy (fieldOf (some scene) "stop_on_error")
  networkScope := normalizeScopeForDraft (fieldOf (some scene) "network_scope")
  actions := match fieldOf (some scene) "actions" with
    | some (.arr items) => items.map adoptAction
    | _ => []

/-- The body of `save`, without the label. -/
def saveBody (draft : SceneDraft) : UpdateArgs where
  stopOnError := .bool draft.stopOnError
  networkScope := draft.networkScope
  actions := .arr (draft.actions.map (emitAction numberOfString))

/-! ### What comes back -/

/-- An effect as the editor sends it: an empty `flags_override` is left out. -/
def emittedEffect (e : Effect) : Json :=
  dict ([("kind", .str e.kind.name), ("target", e.target.toJson), ("params", .obj e.params)] ++
    if hasKeys (some e.flagsOverride.toJson) then [("flags_override", e.flagsOverride.toJson)] else [])

/-- An action as the editor sends it. -/
def emitted : Action → Json
  | .effect e => emittedEffect e
  | .offsetGroup target offset actions =>
    dict [("kind", .str "offset_group"), ("target", target.toJson), ("offset", offset.toJson),
      ("actions", .arr (actions.map emittedEffect))]
  | a => a.toJson

theorem convertList_eq (step : Dict → Option (List Json) → Json) (items : List Json) :
    convertList step items = items.map (convert step) := by
  induction items with
  | nil => rfl
  | cons x rest ih => rw [convertList, ih, List.map_cons]

theorem truthy_obj (fields : Dict) : truthy (some (.obj fields)) = true := rfl

theorem spread_obj (fields : Dict) : spread (.obj fields) = .obj fields := rfl

theorem truthy_target (t : Target) : truthy (some t.toJson) = true := by cases t <;> rfl

theorem spread_target (t : Target) : spread t.toJson = t.toJson := by cases t <;> rfl

theorem truthy_offset (b : OffsetBlock) : truthy (some b.toJson) = true := by cases b <;> rfl

theorem truthy_flags (o : FlagsOverride) : truthy (some o.toJson) = true := rfl

theorem spread_flags (o : FlagsOverride) : spread o.toJson = o.toJson := rfl

/-- The draft of an effect is the effect. -/
theorem adopt_effect (e : Effect) : adoptAction e.toJson = e.toJson := by
  obtain ⟨kind, target, params, flags⟩ := e
  cases kind <;>
    simp [adoptAction, Effect.toJson, dict, convert, adoptFields, EffectKind.name, object, copied,
      truthy_target, truthy_flags, spread_flags, truthy_obj, spread_obj]

theorem emit_effect (e : Effect) : emitAction numberOfString e.toJson = emittedEffect e := by
  obtain ⟨kind, target, params, flags⟩ := e
  by_cases hkeys : hasKeys (some flags.toJson) = true
  · cases kind <;>
      simp [emitAction, emittedEffect, Effect.toJson, dict, convert, emitFields, EffectKind.name,
        object, copied, truthy_flags, spread_flags, hkeys, spread_obj]
  · cases kind <;>
      simp [emitAction, emittedEffect, Effect.toJson, dict, convert, emitFields, EffectKind.name,
        object, hkeys, spread_obj]

theorem emit_adopt_effect (e : Effect) : emitAction numberOfString (adoptAction e.toJson) = emittedEffect e := by
  rw [adopt_effect, emit_effect]

/-- **What the editor makes of an action.** -/
theorem emit_adopt (a : Action) : emitAction numberOfString (adoptAction a.toJson) = emitted a := by
  cases a with
  | effect e => exact emit_adopt_effect numberOfString e
  | startblock target params =>
    have hnone : truthy none = false := rfl
    have hadopted : adoptAction (Action.startblock target params).toJson = (Action.startblock target params).toJson := by
      simp [adoptAction, Action.toJson, dict, convert, adoptFields, object, copied, truthy_target, truthy_obj,
        spread_obj, hnone]
    rw [hadopted]
    simp [emitAction, emitted, Action.toJson, dict, convert, emitFields, object, hasKeys, spread_obj]
  | sync => rfl
  | delay durationMs => rfl
  | offsetGroup target offset actions =>
    have hadopted : (actions.map Effect.toJson).map (convert adoptFields) = actions.map Effect.toJson := by
      rw [List.map_map]
      exact List.map_congr_left fun e _ => adopt_effect e
    have hemitted : (actions.map Effect.toJson).map (convert (emitFields numberOfString)) =
        actions.map emittedEffect := by
      rw [List.map_map]
      exact List.map_congr_left fun e _ => emit_effect numberOfString e
    have hdraft : adoptAction (Action.offsetGroup target offset actions).toJson =
        (Action.offsetGroup target offset actions).toJson := by
      simp [adoptAction, Action.toJson, dict, convert, convertChildren, convertItems, convertList_eq, adoptFields,
        object, copied, truthy_target, spread_target, truthy_offset, hadopted]
    rw [hdraft]
    simp [emitAction, emitted, Action.toJson, dict, convert, convertChildren, convertItems, convertList_eq,
      emitFields, object, hemitted]

end Emit

/-! ### What the validator makes of it -/

/-- Without an override there is nothing to send. -/
theorem no_keys {o : FlagsOverride} (h : hasKeys (some o.toJson) = false) : o = {} := by
  obtain ⟨a, b, c, d⟩ := o
  cases a <;> cases b <;> cases c <;> cases d <;> first | rfl | cases h

/-- An effect is sent as it is stored, or without its empty `flags_override`. -/
theorem emittedEffect_cases (e : Effect) : emittedEffect e = e.toJson ∨ e.flagsOverride = {} ∧
    emittedEffect e = dict [("kind", .str e.kind.name), ("target", e.target.toJson), ("params", .obj e.params)] := by
  cases hkeys : hasKeys (some e.flagsOverride.toJson) with
  | true =>
    left
    rw [emittedEffect, hkeys]
    rfl
  | false =>
    right
    rw [emittedEffect, hkeys]
    exact ⟨no_keys hkeys, rfl⟩

theorem noFlags : ({} : FlagsOverride).toJson = .obj [] := rfl

theorem child_emittedEffect (groups : Option (List Int)) (e : Effect) :
    canonicalOffsetGroupChild groups (emittedEffect e) = canonicalOffsetGroupChild groups e.toJson := by
  rcases emittedEffect_cases e with hsame | ⟨hnone, hshort⟩
  · rw [hsame]
  · rw [hshort, Effect.toJson, hnone, noFlags]
    simp [canonicalOffsetGroupChild, dict, Dict.get, Dict.has, canonicalFlagsOverride, Json.orElse, Json.truthy]

theorem canonical_emittedEffect {e : Effect} (h : e.target.Valid) :
    canonicalAction (emittedEffect e) = .ok (.effect e.normal) := by
  rcases emittedEffect_cases e with hsame | ⟨hnone, hshort⟩
  · rw [hsame, effect_toJson h]
  · have hlegacy : isLegacyGroupsOffsetTarget [(.str "kind", .str e.kind.name), (.str "target", e.target.toJson),
        (.str "params", .obj e.params)] = false := target_not_legacy e.target _ (by simp [Dict.get])
    have htarget := canonicalTarget_toJson h
    rw [hshort, dict, List.map_cons, List.map_cons, List.map_cons, List.map_nil, canonicalAction_of_modern hlegacy]
    obtain ⟨kind, target, params, flags⟩ := e
    cases kind <;>
      simp_all [canonicalModernAction, canonicalEffectAction, requiredTarget, canonicalParams, Effect.normal,
        EffectKind.name, Dict.get, Dict.has, canonicalFlagsOverride, Json.orElse, Json.truthy, flagOf]

/-- The children of a container count only by what the validator makes of them. -/
theorem container_children (t : Target) (offset : OffsetBlock) {xs ys : List Json} (hlength : xs.length = ys.length)
    (h : ∀ groups, xs.mapM (canonicalOffsetGroupChild groups) = ys.mapM (canonicalOffsetGroupChild groups)) :
    canonicalAction (dict [("kind", .str "offset_group"), ("target", t.toJson), ("offset", offset.toJson),
      ("actions", .arr xs)]) =
    canonicalAction (dict [("kind", .str "offset_group"), ("target", t.toJson), ("offset", offset.toJson),
      ("actions", .arr ys)]) := by
  have hlegacy : ∀ zs : List Json, isLegacyGroupsOffsetTarget [(.str "kind", .str "offset_group"),
      (.str "target", t.toJson), (.str "offset", offset.toJson), (.str "actions", .arr zs)] = false :=
    fun zs => target_not_legacy t _ (by simp [Dict.get])
  have hraw : ∀ zs : List Json, containerTargetRaw [(.str "kind", .str "offset_group"), (.str "target", t.toJson),
      (.str "offset", offset.toJson), (.str "actions", .arr zs)] = .ok t.toJson := by
    intro zs
    cases t <;> simp [containerTargetRaw, Dict.get, Target.toJson, dict]
  have hlist : ∀ zs : List Json, (Json.arr zs).orElse (.arr []) = .arr zs := by
    intro zs
    cases zs <;> simp [Json.orElse, Json.truthy]
  simp only [dict, List.map_cons, List.map_nil]
  rw [canonicalAction_of_modern (hlegacy xs), canonicalAction_of_modern (hlegacy ys)]
  simp [canonicalModernAction, refuseStray, Dict.has, Dict.get, canonicalOffsetGroupAction, hraw, hlist,
    hlength, h]

/-- **The validator makes the stored action of what the editor sends.** -/
theorem canonical_emitted {a : Action} (h : a.Valid) : canonicalAction (emitted a) = .ok a.normal := by
  cases a with
  | effect e => exact canonical_emittedEffect h
  | startblock target params => exact canonicalAction_toJson h
  | sync => exact canonicalAction_toJson h
  | delay durationMs => exact canonicalAction_toJson h
  | offsetGroup target offset actions =>
    have hchildren : ∀ groups, (actions.map emittedEffect).mapM (canonicalOffsetGroupChild groups) =
        (actions.map Effect.toJson).mapM (canonicalOffsetGroupChild groups) := by
      intro groups
      rw [List.mapM_map, List.mapM_map]
      exact congrArg (fun f => List.mapM f actions) (funext (child_emittedEffect groups))
    exact (container_children target offset (by rw [List.length_map, List.length_map]) hchildren).trans
      (canonicalAction_toJson h)

/-! ### Open and save -/

section Save
variable (numberOfString : String → Json)

/-- **An unchanged save gives the scene**: its actions, when it stops and where it is sent. -/
structure Unchanged (scene : Scene) : Prop where
  actions : canonicalActions (saveBody numberOfString (sceneToDraft scene.toJson)).actions = .ok scene.actions
  stopOnError : coerceBool (saveBody numberOfString (sceneToDraft scene.toJson)).stopOnError true = scene.stopOnError
  networkScope : canonicalNetworkScope (saveBody numberOfString (sceneToDraft scene.toJson)).networkScope =
    .ok scene.networkScope

theorem saveBody_actions (scene : Scene) :
    (saveBody numberOfString (sceneToDraft scene.toJson)).actions = .arr (scene.actions.map emitted) := by
  have hfield : fieldOf (some scene.toJson) "actions" = some (actionsJson scene.actions) := by
    simp [Scene.toJson, dict, fieldOf]
  have hdraft : (sceneToDraft scene.toJson).actions = (scene.actions.map Action.toJson).map adoptAction := by
    rw [sceneToDraft, hfield]
    rfl
  rw [saveBody, hdraft, List.map_map, List.map_map]
  exact congrArg Json.arr (List.map_congr_left fun a _ => emit_adopt numberOfString a)

/-- The scope of the draft is that of the scene. -/
theorem normalizeScopeForDraft_toJson (scope : NetworkScope) :
    normalizeScopeForDraft (some scope.toJson) = scope.toJson := by
  cases scope with
  | auto => rfl
  | explicit ids => simp [normalizeScopeForDraft, NetworkScope.toJson, dict, truthy, fieldOf]

/-- A scene with an action of every shape. -/
def everyShape : Scene where
  id := 0
  key := "start"
  label := "Start"
  created := .null
  updated := .null
  actions := [.effect ⟨.rlPreset, .device "AABBCCDDEEFF", [(.str "presetId", .int 3)], {}⟩,
    .effect ⟨.wledPreset, .groups [1, 2], [], {armOnSync := some false}⟩, .startblock .broadcast [], .sync, .delay 250,
    .offsetGroup (.groups [1, 2]) (.explicit [⟨1, 10⟩, ⟨2, 20⟩]) [⟨.rlEffect, .broadcast, [], {offsetMode := some true}⟩],
    .offsetGroup .broadcast (.modulo 0 50 3) [⟨.wledPreset, .groups [4], [], {}⟩]]
  stopOnError := false
  networkScope := .explicit ["net-1"]

end Save

end RaceLink.Web.Editor
