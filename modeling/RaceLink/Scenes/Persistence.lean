import RaceLink.Scenes.Renumber

/-! What the scene file gives back: the scenes written by one service, as the next
one loads them.

Targets, blocks and flags come back as they were (`dump_toJson`); params come back
through `json.dump`, which turns keys that are no strings into strings. A scene
with an action that the validator refuses comes back without any action. -/
namespace RaceLink.Scenes
open Python Library

/-! ### Actions -/

section Dump
variable (keyText : Key → String)

/-- The params of an action after the file. -/
def dumpParams (params : Dict) : Dict := Dict.ofPairs (Json.dumpFields keyText params)

def Effect.dumped (e : Effect) : Effect := {e with params := dumpParams keyText e.params}

def Action.dumped : Action → Action
  | .effect e => .effect (e.dumped keyText)
  | .startblock target params => .startblock target (dumpParams keyText params)
  | .sync => .sync
  | .delay durationMs => .delay durationMs
  | .offsetGroup target offset actions =>
    .offsetGroup target offset (actions.map (Effect.dumped keyText))

theorem Target.dump_toJson (t : Target) : t.toJson.dump keyText = t.toJson := by
  refine (Json.dump_eq_self keyText _).mpr ?_
  have hints : ∀ ids : List Int, Json.TextualItems (ids.map .int) := fun ids => by
    induction ids with
    | nil => trivial
    | cons v rest ih => exact ⟨trivial, ih⟩
  cases t <;> simp [Target.toJson, dict, Json.Textual, Json.TextualFields, hints]

theorem OffsetEntry.dump_toJson (e : OffsetEntry) : e.toJson.dump keyText = e.toJson := by
  refine (Json.dump_eq_self keyText _).mpr ?_
  simp [OffsetEntry.toJson, dict, Json.Textual, Json.TextualFields]

theorem OffsetBlock.dump_toJson (b : OffsetBlock) : b.toJson.dump keyText = b.toJson := by
  cases b with
  | explicit values =>
    have hrows : (values.map OffsetEntry.toJson).map (Json.dump keyText) =
        values.map OffsetEntry.toJson := by
      rw [List.map_map]
      exact List.map_congr_left fun e _ => e.dump_toJson keyText
    rw [OffsetBlock.toJson, Json.dump_dict keyText (by simp)]
    simp only [List.map_cons, List.map_nil, Json.dump_arr, hrows]
    rfl
  | none => rfl
  | linear base step =>
    rw [OffsetBlock.toJson, Json.dump_dict keyText (by simp)]
    rfl
  | vshape base step center =>
    rw [OffsetBlock.toJson, Json.dump_dict keyText (by simp)]
    rfl
  | modulo base step cycle =>
    rw [OffsetBlock.toJson, Json.dump_dict keyText (by simp)]
    rfl

theorem FlagsOverride.dump_toJson (o : FlagsOverride) : o.toJson.dump keyText = o.toJson := by
  refine (Json.dump_eq_self keyText _).mpr ?_
  obtain ⟨a, b, c, d⟩ := o
  cases a <;> cases b <;> cases c <;> cases d <;>
    simp [FlagsOverride.toJson, flagField, dict, Json.Textual, Json.TextualFields, Domain.UserFlag.key]

theorem Effect.dump_toJson (e : Effect) : e.toJson.dump keyText = (e.dumped keyText).toJson := by
  rw [Effect.toJson, Json.dump_dict keyText (by simp)]
  simp only [List.map_cons, List.map_nil, Target.dump_toJson, FlagsOverride.dump_toJson, Json.dump]
  rfl

/-- **An action comes back as itself, its params apart.** -/
theorem Action.dump_toJson (a : Action) : a.toJson.dump keyText = (a.dumped keyText).toJson := by
  cases a with
  | effect e => exact e.dump_toJson keyText
  | startblock target params =>
    rw [Action.toJson, Json.dump_dict keyText (by simp)]
    simp only [List.map_cons, List.map_nil, Target.dump_toJson, Json.dump]
    rfl
  | sync => rfl
  | delay durationMs =>
    rw [Action.toJson, Json.dump_dict keyText (by simp)]
    rfl
  | offsetGroup target offset actions =>
    have hchildren : (actions.map Effect.toJson).map (Json.dump keyText) =
        (actions.map (Effect.dumped keyText)).map Effect.toJson := by
      rw [List.map_map, List.map_map]
      exact List.map_congr_left fun e _ => e.dump_toJson keyText
    rw [Action.toJson, Json.dump_dict keyText (by simp)]
    simp only [List.map_cons, List.map_nil, Target.dump_toJson, OffsetBlock.dump_toJson,
      Json.dump_arr, hchildren]
    rfl

theorem dump_actionsJson (actions : List Action) :
    (actionsJson actions).dump keyText = actionsJson (actions.map (Action.dumped keyText)) := by
  rw [actionsJson, Json.dump_arr, actionsJson, List.map_map, List.map_map]
  exact congrArg Json.arr (List.map_congr_left fun a _ => a.dump_toJson keyText)

theorem Action.dumped_valid {a : Action} : (a.dumped keyText).Valid ↔ a.Valid := by
  cases a with
  | offsetGroup target offset actions =>
    have hchild : ∀ e : Effect, ∀ ids, (e.dumped keyText).Valid ids ↔ e.Valid ids :=
      fun e ids => ⟨fun h => ⟨h.target, h.within⟩, fun h => ⟨h.target, h.within⟩⟩
    constructor
    · intro h
      refine ⟨h.scope, h.not_device, h.entries, h.block, by simpa using h.count, fun e he => ?_⟩
      exact (hchild e _).mp (h.children _ (List.mem_map_of_mem he))
    · intro h
      refine ⟨h.scope, h.not_device, h.entries, h.block, by simpa using h.count, fun e he => ?_⟩
      obtain ⟨e', he', rfl⟩ := List.mem_map.mp he
      exact (hchild e' _).mpr (h.children e' he')
  | _ => exact Iff.rfl

theorem Action.dumped_normal (a : Action) :
    (a.dumped keyText).normal = a.normal.dumped keyText := by
  cases a with
  | offsetGroup target offset actions =>
    simp only [Action.dumped, Action.normal, List.map_map]
    rfl
  | _ => rfl

theorem Action.Canonical.dumped {a : Action} (h : a.Canonical) : (a.dumped keyText).Canonical :=
  ⟨(a.dumped_valid keyText).mpr h.1, by rw [a.dumped_normal keyText, h.2]⟩

theorem Action.Stored.dumped {a : Action} (h : a.Stored) : (a.dumped keyText).Stored := by
  rcases h with h | ⟨values, actions, rfl⟩
  · exact .inl (h.dumped keyText)
  · exact .inr ⟨values, _, rfl⟩

end Dump

/-- Every params dict of the action has string keys. -/
def Action.Textual : Action → Prop
  | .effect e => (Json.obj e.params).Textual
  | .startblock _ params => (Json.obj params).Textual
  | .offsetGroup _ _ actions => ∀ e ∈ actions, (Json.obj e.params).Textual
  | _ => True

theorem dumpParams_eq_self (keyText : Key → String) (params : Dict) :
    dumpParams keyText params = params ↔ (Json.obj params).Textual := by
  rw [← Json.dump_eq_self keyText, Json.dump]
  exact ⟨congrArg Json.obj, Json.obj.inj⟩

theorem Effect.dumped_eq_self (keyText : Key → String) (e : Effect) :
    e.dumped keyText = e ↔ (Json.obj e.params).Textual := by
  rw [← dumpParams_eq_self keyText]
  exact ⟨congrArg Effect.params, fun h => by rw [Effect.dumped, h]⟩

/-- An action comes back as it was exactly when its params are textual. -/
theorem Action.dumped_eq_self (keyText : Key → String) (a : Action) :
    a.dumped keyText = a ↔ a.Textual := by
  cases a with
  | effect e => simp only [Action.dumped, Action.Textual, Action.effect.injEq, Effect.dumped_eq_self]
  | startblock target params =>
    simp only [Action.dumped, Action.Textual, Action.startblock.injEq, true_and, dumpParams_eq_self]
  | sync => simp [Action.dumped, Action.Textual]
  | delay durationMs => simp [Action.dumped, Action.Textual]
  | offsetGroup target offset actions =>
    simp only [Action.dumped, Action.Textual, Action.offsetGroup.injEq, true_and, map_eq_self,
      Effect.dumped_eq_self]

/-! ### Action lists -/

theorem Action.explicit_broadcast_not_valid (values : List OffsetEntry) (actions : List Effect) :
    ¬ (Action.offsetGroup .broadcast (.explicit values) actions).Valid := by
  intro h
  obtain ⟨ids, hids, -⟩ := h.block
  cases hids

/-- Stored actions of which one is refused are refused as a list, with a `ValueError`. -/
theorem canonicalActions_refused {actions : List Action} (hstored : ∀ a ∈ actions, a.Stored)
    (hcount : actions.length ≤ MAX_ACTIONS_PER_SCENE) (hbad : ¬ ∀ a ∈ actions, a.Canonical) :
    ∃ text args, canonicalActions (actionsJson actions) = .error (.valueError text args) := by
  have hlist : ∀ l : List Action, (∀ a ∈ l, a.Stored) → (¬ ∀ a ∈ l, a.Canonical) →
      ∃ text args, (l.map Action.toJson).mapM canonicalAction = .error (.valueError text args) := by
    intro l
    induction l with
    | nil => simp
    | cons a rest ih =>
      intro hl hlbad
      rcases hl a (List.mem_cons_self ..) with ha | ⟨values, children, rfl⟩
      · have hrest : ¬ ∀ b ∈ rest, b.Canonical := fun h => hlbad fun b hb => by
          rcases List.mem_cons.mp hb with rfl | hb
          · exact ha
          · exact h b hb
        obtain ⟨text, args, herr⟩ := ih (fun b hb => hl b (List.mem_cons_of_mem _ hb)) hrest
        exact ⟨text, args, mapM_cons_rest_error (canonicalAction_toJson ha.1) herr⟩
      · exact ⟨_, _, mapM_cons_error (canonicalAction_explicit_broadcast values children) _⟩
  obtain ⟨text, args, herr⟩ := hlist actions hstored hbad
  refine ⟨text, args, ?_⟩
  show (if (actions.map Action.toJson).length > MAX_ACTIONS_PER_SCENE then _ else _) = _
  rw [if_neg (by rw [List.length_map]; omega), herr]

/-! ### Network scopes -/

/-- Named networks, each once, with nothing to strip. -/
def NetworkScope.Canonical : NetworkScope → Prop
  | .auto => True
  | .explicit ids => ids ≠ [] ∧ ids.Nodup ∧ ∀ nid ∈ ids, strip nid = nid ∧ nid ≠ ""

theorem collectNetworkIds_ok {out ids : List String} {raw : List Json}
    (h : collectNetworkIds out raw = .ok ids) (hnodup : out.Nodup)
    (hout : ∀ nid ∈ out, strip nid = nid ∧ nid ≠ "") :
    ids.Nodup ∧ ∀ nid ∈ ids, strip nid = nid ∧ nid ≠ "" := by
  induction raw generalizing out with
  | nil =>
    cases h
    exact ⟨hnodup, hout⟩
  | cons entry rest ih =>
    cases entry with
    | str s =>
      unfold collectNetworkIds at h
      split at h
      · exact ih h hnodup hout
      · next hnew =>
        obtain ⟨hne, hfresh⟩ := not_or.mp hnew
        refine ih h ?_ fun nid hnid => ?_
        · rw [List.nodup_append]
          exact ⟨hnodup, List.nodup_singleton _, fun a ha b hb => by
            rw [List.mem_singleton.mp hb]
            exact fun hab => hfresh (hab ▸ ha)⟩
        · rcases List.mem_append.mp hnid with hnid | hnid
          · exact hout nid hnid
          · rw [List.mem_singleton.mp hnid]
            exact ⟨strip_strip s, hne⟩
    | _ => cases h

theorem collectNetworkIds_strs {out ids : List String} (hnodup : (out ++ ids).Nodup)
    (hids : ∀ nid ∈ ids, strip nid = nid ∧ nid ≠ "") :
    collectNetworkIds out (ids.map .str) = .ok (out ++ ids) := by
  induction ids generalizing out with
  | nil => simp [collectNetworkIds]
  | cons nid rest ih =>
    obtain ⟨hstrip, hne⟩ := hids nid (List.mem_cons_self ..)
    have hfresh : nid ∉ out := fun hmem =>
      (List.nodup_append.mp hnodup).2.2 nid hmem nid (List.mem_cons_self ..) rfl
    have hrest : collectNetworkIds (out ++ [nid]) (rest.map .str) = .ok (out ++ [nid] ++ rest) :=
      ih (by simpa using hnodup) fun n hn => hids n (List.mem_cons_of_mem _ hn)
    rw [List.map_cons, collectNetworkIds, hstrip, if_neg (not_or.mpr ⟨hne, hfresh⟩), hrest,
      List.append_assoc, List.singleton_append]

theorem canonicalNetworkScope_ok {raw : Json} {scope : NetworkScope}
    (h : canonicalNetworkScope raw = .ok scope) : scope.Canonical := by
  unfold canonicalNetworkScope at h
  split at h
  · cases h
    trivial
  · split at h
    · cases h
      trivial
    · split at h
      case h_2 => cases h
      obtain ⟨out, hids, h⟩ := bind_ok.mp h
      obtain ⟨hne, h⟩ := guard_ok.mp h
      cases h
      exact ⟨hne, collectNetworkIds_ok hids List.nodup_nil (by simp)⟩
    · cases h
  · cases h

theorem canonicalNetworkScope_toJson {scope : NetworkScope} (h : scope.Canonical) :
    canonicalNetworkScope scope.toJson = .ok scope := by
  cases scope with
  | auto => rfl
  | explicit ids =>
    obtain ⟨hne, hnodup, hids⟩ := h
    have hcollect : collectNetworkIds [] (ids.map .str) = .ok ([] ++ ids) :=
      collectNetworkIds_strs hnodup hids
    simp [canonicalNetworkScope, NetworkScope.toJson, dict, Dict.get, hcollect, hne]

theorem NetworkScope.dump_toJson (keyText : Key → String) (scope : NetworkScope) :
    scope.toJson.dump keyText = scope.toJson := by
  refine (Json.dump_eq_self keyText _).mpr ?_
  have hstrs : ∀ ids : List String, Json.TextualItems (ids.map .str) := fun ids => by
    induction ids with
    | nil => trivial
    | cons v rest ih => exact ⟨trivial, ih⟩
  cases scope <;> simp [NetworkScope.toJson, dict, Json.Textual, Json.TextualFields, hstrs]

/-! ### Scenes -/

/-- What is true of every scene in memory: its actions are such as a save stores them. -/
structure Scene.Sound (scene : Scene) : Prop where
  count : scene.actions.length ≤ MAX_ACTIONS_PER_SCENE
  actions : ∀ a ∈ scene.actions, a.Stored
  scope : scene.networkScope.Canonical

/-- `scene'` is what a load makes of `scene`. -/
structure Scene.Reloaded (keyText : Key → String) (scene scene' : Scene) : Prop where
  key : scene'.key = scene.key
  label : scene'.label = scene.label
  actions : loadActions ((actionsJson scene.actions).dump keyText) = .ok scene'.actions
  stopOnError : scene'.stopOnError = scene.stopOnError
  scope : scene'.networkScope = scene.networkScope

/-- Whatever the file says, the actions that are loaded are canonical. -/
theorem loadActions_canonical {raw : Json} {actions : List Action}
    (h : loadActions raw = .ok actions) : CanonicalList actions := by
  unfold loadActions at h
  split at h
  · cases h
    exact ⟨Nat.zero_le _, by simp⟩
  · exact canonicalActions_canonical h

theorem loadActions_of_canonical {actions : List Action} (h : CanonicalList actions) :
    loadActions (actionsJson actions) = .ok actions := by
  rw [loadActions, canonicalActions_toJson h]

/-- Loading stored actions: all of them when they are canonical, none otherwise. -/
theorem loadActions_stored (keyText : Key → String) {actions : List Action}
    (hcount : actions.length ≤ MAX_ACTIONS_PER_SCENE) (hstored : ∀ a ∈ actions, a.Stored) :
    ((∀ a ∈ actions, a.Canonical) →
      loadActions ((actionsJson actions).dump keyText) = .ok (actions.map (Action.dumped keyText))) ∧
    ((¬ ∀ a ∈ actions, a.Canonical) →
      loadActions ((actionsJson actions).dump keyText) = .ok []) := by
  rw [dump_actionsJson]
  constructor
  · intro h
    refine loadActions_of_canonical ⟨by simpa using hcount, fun a ha => ?_⟩
    obtain ⟨a', ha', rfl⟩ := List.mem_map.mp ha
    exact (h a' ha').dumped keyText
  · intro h
    have hbad : ¬ ∀ a ∈ actions.map (Action.dumped keyText), a.Canonical := by
      intro hall
      refine h fun a ha => ?_
      rcases hstored a ha with hc | ⟨values, children, rfl⟩
      · exact hc
      · exact absurd (hall _ (List.mem_map_of_mem ha)).1 (Action.explicit_broadcast_not_valid _ _)
    obtain ⟨text, args, herr⟩ := canonicalActions_refused
      (fun a ha => by
        obtain ⟨a', ha', rfl⟩ := List.mem_map.mp ha
        exact (hstored a' ha').dumped keyText) (by simpa using hcount) hbad
    rw [loadActions, herr]

theorem Scene.dump_toJson (keyText : Key → String) (scene : Scene) :
    scene.toJson.dump keyText =
      dict [("id", .int scene.id), ("key", .str scene.key), ("label", .str scene.label),
        ("created", scene.created.dump keyText), ("updated", scene.updated.dump keyText),
        ("actions", (actionsJson scene.actions).dump keyText),
        ("stop_on_error", .bool scene.stopOnError), ("network_scope", scene.networkScope.toJson)] := by
  rw [Scene.toJson, Json.dump_dict keyText (by simp)]
  simp only [List.map_cons, List.map_nil, NetworkScope.dump_toJson, Json.dump]

/-- Sound scenes are all loaded, in their order. -/
theorem loadScenes_dump (keyText : Key → String) (now : String) (index : Nat) (used : List Int)
    {scenes : List Scene} (h : ∀ scene ∈ scenes, scene.Sound) :
    ∃ scenes' used', loadScenes now index used (scenes.map fun s => s.toJson.dump keyText) =
        .ok (scenes', used') ∧ List.Forall₂ (Scene.Reloaded keyText) scenes scenes' := by
  induction scenes generalizing index used with
  | nil => exact ⟨[], used, rfl, .nil⟩
  | cons scene rest ih =>
    have hscene := h scene (List.mem_cons_self ..)
    obtain ⟨actions, hactions⟩ : ∃ actions,
        loadActions ((actionsJson scene.actions).dump keyText) = .ok actions := by
      obtain ⟨hgood, hbad⟩ := loadActions_stored keyText hscene.count hscene.actions
      by_cases hc : ∀ a ∈ scene.actions, a.Canonical
      · exact ⟨_, hgood hc⟩
      · exact ⟨_, hbad hc⟩
    obtain ⟨scenes', used', hrest, hall⟩ := ih (index + 1)
      (freeId used used.length scene.id :: used) fun s hs => h s (List.mem_cons_of_mem _ hs)
    let scene' : Scene := {
      id := freeId used used.length scene.id, key := scene.key, label := scene.label
      created := (scene.created.dump keyText).orElse (.str now)
      updated := (scene.updated.dump keyText).orElse
        ((scene.created.dump keyText).orElse (.str now))
      actions, stopOnError := scene.stopOnError, networkScope := scene.networkScope }
    refine ⟨scene' :: scenes', used', ?_, .cons ⟨rfl, rfl, hactions, rfl, rfl⟩ hall⟩
    rw [List.map_cons, Scene.dump_toJson]
    simp [loadScenes, dict, Dict.get, loadId, Json.toInt, hactions,
      canonicalNetworkScope_toJson hscene.scope, hrest, coerceBool, scene']

/-- The loaded scenes are sound, whatever the file says. -/
theorem loadScenes_sound {now : String} {index : Nat} {used used' : List Int} {raw : List Json}
    {scenes : List Scene} (h : loadScenes now index used raw = .ok (scenes, used')) :
    ∀ scene ∈ scenes, scene.Sound := by
  induction raw generalizing index used used' scenes with
  | nil =>
    cases h
    simp
  | cons entry rest ih =>
    cases entry with
    | obj fields =>
      unfold loadScenes at h
      split at h
      · obtain ⟨id, -, h⟩ := bind_ok.mp h
        obtain ⟨actions, hactions, h⟩ := bind_ok.mp h
        obtain ⟨scope, hscope, h⟩ := bind_ok.mp h
        obtain ⟨⟨scenes', used''⟩, hrest, h⟩ := bind_ok.mp h
        cases h
        have hlist := loadActions_canonical hactions
        intro scene hmem
        rcases List.mem_cons.mp hmem with rfl | hmem
        · exact ⟨hlist.count, fun a ha => .inl (hlist.actions a ha), canonicalNetworkScope_ok hscope⟩
        · exact ih hrest scene hmem
      · exact ih h
    | _ => exact ih h

theorem load_sound {now : String} {file : File} {scenes : List Scene} {nextId : Int}
    (h : load now file = .ok (scenes, nextId)) : ∀ scene ∈ scenes, scene.Sound := by
  unfold load at h
  split at h
  · cases h
    simp
  · cases h
    simp
  · cases h
  · obtain ⟨-, -, h⟩ := bind_ok.mp h
    split at h
    · obtain ⟨⟨scenes', used⟩, hscenes, h⟩ := bind_ok.mp h
      cases h
      exact loadScenes_sound hscenes
    · cases h
      simp
  · cases h
    simp

/-- **A written file is loaded again, scene for scene.** -/
theorem load_payload (keyText : Key → String) (now : String) (nextId : Option Int)
    {scenes : List Scene} (h : ∀ scene ∈ scenes, scene.Sound) :
    ∃ scenes' nextId', load now (.doc ((payload nextId scenes).dump keyText)) = .ok (scenes', nextId') ∧
      List.Forall₂ (Scene.Reloaded keyText) scenes scenes' := by
  obtain ⟨scenes', used, hload, hall⟩ := loadScenes_dump keyText now 0 [] h
  refine ⟨scenes', loadNextId (.int (nextId.getD (maxId (scenes.map (·.id)) + 1))) used, ?_, hall⟩
  rw [payload, Json.dump_dict keyText (by simp)]
  simp [load, dict, Dict.get, Dict.getD, Json.dump, Json.dumpItems_eq_map, Json.orElse, Json.truthy,
    Json.toInt, SCHEMA_VERSION, Function.comp_def, hload]

end RaceLink.Scenes
