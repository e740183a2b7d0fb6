import RaceLink.Runner.SceneScope
import RaceLink.Scenes.Rereading

/-! Creating and updating a scene over the web (`web/api.py`): the scene is stored first
and its scope is checked afterwards. What is refused then is undone, a create by a
delete, an update by another update with what the scene held before. -/
namespace RaceLink.Runner
open Python Library Domain Scenes Routing

/-- How a request ends that is not answered with a scene. -/
inductive SceneError where
  | refused (status : Nat) (error : String) (args : List Json)
  /-- The check of the scope failed. -/
  | violation (v : ScopeViolation)
  | raised (e : PyError)
deriving DecidableEq, Repr

/-- `except ValueError`. -/
def serviceError : PyError → SceneError
  | .valueError text args => .refused 400 text args
  | e => .raised e

/-- The body of a create request; a label or key of another type counts as none. -/
structure CreateBody where
  label : Option String := none
  actions : Json := .null
  key : Option String := none
  stopOnError : Json := .null
  networkScope : Json := .null

section Requests
variable (h : Host) (keyText : Key → String) (env : Env)

/-- `api_scenes_create`. -/
def apiScenesCreate (s : Service) (body : CreateBody) : Except SceneError Scene × Service :=
  if strip (body.label.getD "") = "" then (.error (.refused 400 "label is required" []), s)
  else
    let args : CreateArgs :=
      { label := body.label.getD "", actions := body.actions, key := body.key
        stopOnError := body.stopOnError, networkScope := body.networkScope }
    match create keyText env s args with
    | (.error e, s) => (.error (serviceError e), s)
    | (.ok scene, s) =>
      match validateSceneScopeConsistency h scene with
      | .ok _ => (.ok scene, s)
      | .error v =>
        match delete keyText env s scene.key with
        | (.error e, s) => (.error (.raised e), s)
        | (.ok _, s) => (.error (.violation v), s)

/-- The arguments of the update that puts a scene back. -/
def restoringArgs (prev : Scene) : UpdateArgs where
  label := some prev.label
  actions := actionsJson prev.actions
  stopOnError := .bool prev.stopOnError
  networkScope := prev.networkScope.toJson

/-- `api_scenes_update`. -/
def apiScenesUpdate (s : Service) (key : String) (body : UpdateArgs) : Except SceneError Scene × Service :=
  match get env.now s key with
  | (.error e, s) => (.error (.raised e), s)
  | (.ok prevScene, s) =>
    match update keyText env s key body with
    | (.error e, s) => (.error (serviceError e), s)
    | (.ok none, s) => (.error (.refused 404 "scene not found" []), s)
    | (.ok (some scene), s) =>
      match validateSceneScopeConsistency h scene with
      | .ok _ => (.ok scene, s)
      | .error v =>
        match prevScene with
        | none => (.error (.violation v), s)
        | some prev =>
          match update keyText env s key (restoringArgs prev) with
          | (.error e, s) => (.error (.raised e), s)
          | (.ok _, s) => (.error (.violation v), s)

end Requests

/-! ### What the calls of a request leave -/

/-- `list` answers with sound scenes that have distinct ids. -/
structure Lists (now : String) (s : Service) (scenes : List Scene) : Prop where
  listed : (items now s).1 = .ok scenes
  sound : ∀ scene ∈ scenes, scene.Sound
  nodup : (scenes.map (·.id)).Nodup

section Calls
variable {keyText : Key → String} {env : Env} {s t : Service} {scenes : List Scene}

theorem Lived.lists (hs : Lived keyText s) (h : (items env.now s).1 = .ok scenes) :
    Lists env.now s scenes where
  listed := h
  sound := (items_all (sound_invariant keyText) env.now hs.sound).2 scenes h
  nodup := (items_counted env.now hs.counted scenes (items_cache h)).1

/-- A list that was written is read back. -/
theorem lists_written {nextId n : Option Int} (hsound : ∀ scene ∈ scenes, scene.Sound)
    (hnodup : (scenes.map (·.id)).Nodup) (now : String) :
    Lists now ⟨.doc ((payload nextId scenes).dump keyText), none, n⟩
      (scenes.map (Scene.reread keyText now)) where
  listed := by
    obtain ⟨m, hload⟩ := load_payload_reread keyText now nextId hsound hnodup
    unfold items
    dsimp only
    rw [hload]
  sound := by
    intro scene hscene
    obtain ⟨scene', hscene', rfl⟩ := List.mem_map.mp hscene
    exact (hsound scene' hscene').reread
  nodup := by
    rw [List.map_map]
    exact hnodup

/-- A write that answers, after the list was read. -/
theorem writeItems_lists {scenes' : List Scene} (hsound : ∀ scene ∈ scenes', scene.Sound)
    (hnodup : (scenes'.map (·.id)).Nodup) (h : writeItems keyText env s scenes' = (.ok (), t)) (now : String) :
    Lists now t (scenes'.map (Scene.reread keyText now)) := by
  unfold writeItems at h
  split at h
  · cases h
    exact lists_written hsound hnodup now
  · cases h

/-- What a `create` that answers wrote: the list, and a scene with a new id and a new key. -/
theorem create_ok (hs : s.Counted) {args : CreateArgs} {scene : Scene} (hlists : Lists env.now s scenes)
    (h : create keyText env s args = (.ok scene, t)) :
    scene.key ∉ scenes.map (·.key) ∧ Lists env.now t ((scenes ++ [scene]).map (Scene.reread keyText env.now)) := by
  obtain ⟨draft, hdraft, h⟩ := andThen_pure_eq_ok.mp h
  obtain ⟨scenes', s', hitems, h⟩ := andThen_eq_ok.mp h
  obtain rfl : scenes' = scenes := Except.ok.inj ((congrArg Prod.fst hitems).symm.trans hlists.listed)
  obtain ⟨key, hkey, h⟩ := andThen_pure_eq_ok.mp h
  obtain ⟨⟨⟩, t', hwrite, h⟩ := andThen_eq_ok.mp h
  cases h
  have hcounted := items_counted env.now hs
  rw [hitems] at hcounted
  have hcache := items_cache (congrArg Prod.fst hitems)
  rw [hitems] at hcache
  obtain ⟨-, n, hn, hbelow⟩ := hcounted scenes' hcache
  have hid : s'.nextId.getD 0 = n := by
    rw [hn]
    rfl
  refine ⟨uniqueKey_fresh hkey, writeItems_lists (fun scene hscene => ?_) ?_ hwrite env.now⟩
  · rcases List.mem_append.mp hscene with hscene | hscene
    · exact hlists.sound scene hscene
    · rw [List.mem_singleton.mp hscene]
      exact call_keeps_sound env (.create args) draft hdraft _ _
  · rw [List.map_append, List.map_singleton]
    refine List.nodup_append.mpr ⟨hlists.nodup, List.nodup_singleton _, fun a ha b hb => ?_⟩
    obtain ⟨scene, hscene, rfl⟩ := List.mem_map.mp ha
    rw [List.mem_singleton.mp hb]
    have := hbelow scene hscene
    show scene.id ≠ s'.nextId.getD 0
    omega

/-- A `delete` that answers leaves the list without the scenes that have the key. -/
theorem delete_ok {key : String} {found : Bool} (hlists : Lists env.now s scenes)
    (hmem : key ∈ scenes.map (·.key)) (h : delete keyText env s key = (.ok found, t)) :
    Lists env.now t ((scenes.filter (·.key != key)).map (Scene.reread keyText env.now)) := by
  obtain ⟨scenes', s', hitems, h⟩ := andThen_eq_ok.mp h
  obtain rfl : scenes' = scenes := Except.ok.inj ((congrArg Prod.fst hitems).symm.trans hlists.listed)
  have hshorter : ¬ (scenes'.filter (·.key != key)).length = scenes'.length := by
    intro hlength
    obtain ⟨scene, hscene, hkey⟩ := List.mem_map.mp hmem
    have := List.length_filter_eq_length_iff.mp hlength scene hscene
    simp [hkey] at this
  dsimp only at h
  rw [if_neg hshorter] at h
  obtain ⟨⟨⟩, t', hwrite, h⟩ := andThen_eq_ok.mp h
  cases h
  refine writeItems_lists (fun scene hscene => hlists.sound scene (List.mem_filter.mp hscene).1) ?_ hwrite env.now
  exact hlists.nodup.sublist (List.filter_sublist.map _)

/-- An `update` that answers with a scene put it in the place of the first with the key. -/
theorem update_ok {key : String} {args : UpdateArgs} {scene : Scene} (hlists : Lists env.now s scenes)
    (h : update keyText env s key args = (.ok (some scene), t)) :
    ∃ given before prev after, checkUpdate env args = .ok given ∧ scenes = before ++ prev :: after ∧
      (∀ other ∈ before, ¬ other.key = key) ∧ prev.key = key ∧
      updatedScene env args given.1 given.2 prev = .ok scene ∧
      Lists env.now t ((before ++ scene :: after).map (Scene.reread keyText env.now)) := by
  obtain ⟨given, hgiven, h⟩ := andThen_pure_eq_ok.mp h
  obtain ⟨scenes', s', hitems, h⟩ := andThen_eq_ok.mp h
  obtain rfl : scenes' = scenes := Except.ok.inj ((congrArg Prod.fst hitems).symm.trans hlists.listed)
  obtain ⟨found, hfound, h⟩ := andThen_pure_eq_ok.mp h
  cases found with
  | none => cases h
  | some pair =>
    obtain ⟨⟨⟩, t', hwrite, h⟩ := andThen_eq_ok.mp h
    cases h
    have hsound := replaceFirst_all (call_keeps_sound env (.update key args) given hgiven) hlists.sound hfound
    rw [replaceFirst_eq] at hfound
    have hidents := replaceFirst_map (fun _ _ h => updatedScene_ident h) hfound
    obtain ⟨before, prev, after, hscenes, hbefore, hprev, hupdated, hpair⟩ := replaceFirst_eq_some.mp hfound
    refine ⟨given, before, prev, after, hgiven, hscenes, hbefore, hprev, hupdated, ?_⟩
    have hnodup : (pair.2.map (·.id)).Nodup := by
      have hids := congrArg (List.map Prod.fst) hidents
      rw [List.map_map, List.map_map] at hids
      exact hids ▸ hlists.nodup
    have hwritten := writeItems_lists hsound hnodup hwrite env.now
    rwa [hpair] at hwritten

/-- An `update` that answers without a scene found none. -/
theorem update_none {key : String} {args : UpdateArgs} (hlists : Lists env.now s scenes)
    (h : update keyText env s key args = (.ok none, t)) : key ∉ scenes.map (·.key) := by
  obtain ⟨given, -, h⟩ := andThen_pure_eq_ok.mp h
  obtain ⟨scenes', s', hitems, h⟩ := andThen_eq_ok.mp h
  obtain rfl : scenes' = scenes := Except.ok.inj ((congrArg Prod.fst hitems).symm.trans hlists.listed)
  obtain ⟨found, hfound, h⟩ := andThen_pure_eq_ok.mp h
  cases found with
  | none =>
    rw [replaceFirst_eq] at hfound
    intro hmem
    obtain ⟨scene, hscene, hkey⟩ := List.mem_map.mp hmem
    exact replaceFirst_eq_none hfound scene hscene hkey
  | some pair =>
    obtain ⟨⟨⟩, t', -, h⟩ := andThen_eq_ok.mp h
    cases h

end Calls

end RaceLink.Runner
