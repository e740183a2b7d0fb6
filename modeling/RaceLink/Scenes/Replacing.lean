import RaceLink.Scenes.Rereading
import RaceLink.Scenes.Slugs

/-! Replacing a store by its own list. The entries are rebuilt field by field, and two fields are left out:
what the file then gives back has their defaults. -/
namespace RaceLink.Scenes
open Python Library

/-! ### Runs from an empty store -/

/-- A call, or a new service over the file. -/
def Edits (keyText : Key → String) (s t : Service) : Prop := Step keyText s t ∨ t = .fresh s.file

/-- The stores that calls and restarts lead to from an absent file. -/
def Kept (keyText : Key → String) : Service → Prop := Reachable (fun s => s = .fresh .missing) (Edits keyText)

/-- A sound scene with a label that needs no stripping. -/
structure Scene.Titled (scene : Scene) : Prop extends scene.Sound where
  stripped : strip scene.label = scene.label
  named : scene.label ≠ ""

/-- The file is read at any time, and its scenes are titled. -/
def TitledFile (file : File) : Prop :=
  ∀ now, ∃ scenes nextId, load now file = .ok (scenes, nextId) ∧ ∀ scene ∈ scenes, scene.Titled

theorem titled_invariant (keyText : Key → String) : StoreInvariant keyText Scene.Titled TitledFile where
  load := by
    intro now file scenes nextId hfile hload
    obtain ⟨scenes', nextId', hload', hall⟩ := hfile now
    cases hload.symm.trans hload'
    exact hall
  write := by
    intro nextId scenes hscenes now
    obtain ⟨scenes', nextId', hload, hreloaded⟩ :=
      load_payload keyText now nextId fun scene hscene => (hscenes scene hscene).toSound
    refine ⟨scenes', nextId', hload, fun scene' hscene' => ?_⟩
    obtain ⟨scene, hscene, hsame⟩ := exists_of_forall₂_right hreloaded hscene'
    have htitled := hscenes scene hscene
    exact ⟨load_sound hload scene' hscene', hsame.label ▸ htitled.stripped, hsame.label ▸ htitled.named⟩

theorem draftScene_label {env : Env} {args : CreateArgs} {draft : Scene} (h : draftScene env args = .ok draft) :
    strip draft.label = draft.label ∧ draft.label ≠ "" := by
  obtain ⟨hne, h⟩ := guard_ok.mp h
  obtain ⟨actions, -, h⟩ := bind_ok.mp h
  obtain ⟨scope, -, h⟩ := bind_ok.mp h
  cases h
  exact ⟨strip_strip args.label, hne⟩

theorem updatedScene_label {env : Env} {args : UpdateArgs} {actions : Option (List Action)}
    {scope : Option NetworkScope} {scene scene' : Scene} (h : updatedScene env args actions scope scene = .ok scene')
    (htitled : scene.Titled) : strip scene'.label = scene'.label ∧ scene'.label ≠ "" := by
  obtain ⟨label, hlabel, h⟩ := bind_ok.mp h
  cases h
  unfold updatedLabel at hlabel
  split at hlabel
  · cases hlabel
    exact ⟨htitled.stripped, htitled.named⟩
  · split at hlabel
    · cases hlabel
    · next hne =>
      cases hlabel
      exact ⟨strip_strip _, hne⟩

theorem call_keeps_titled (env : Env) (call : Call) : call.Keeps Scene.Titled env := by
  cases call with
  | get key => trivial
  | delete key => trivial
  | create args =>
    intro draft h id key
    obtain ⟨hstripped, hnamed⟩ := draftScene_label h
    exact ⟨call_keeps_sound env (.create args) draft h id key, hstripped, hnamed⟩
  | duplicate key newLabel =>
    intro src hsrc draft h id key'
    obtain ⟨hstripped, hnamed⟩ := draftScene_label h
    exact ⟨call_keeps_sound env (.duplicate key newLabel) src hsrc.toSound draft h id key', hstripped, hnamed⟩
  | update key args =>
    intro given hcheck scene scene' htitled h
    obtain ⟨hstripped, hnamed⟩ := updatedScene_label h htitled
    exact ⟨call_keeps_sound env (.update key args) given hcheck scene scene' htitled.toSound h, hstripped, hnamed⟩
  | renumber deletedGid =>
    intro scene htitled actions h
    exact ⟨call_keeps_sound env (.renumber deletedGid) scene htitled.toSound actions h, htitled.stripped, htitled.named⟩
  | remap mapping =>
    intro scene htitled actions h
    exact ⟨call_keeps_sound env (.remap mapping) scene htitled.toSound actions h, htitled.stripped, htitled.named⟩

/-! ### Keys -/

/-- The keys are slugs, each there once. -/
structure Keys (scenes : List Scene) : Prop where
  slugs : ∀ scene ∈ scenes, Slug scene.key.toList
  nodup : (scenes.map (·.key)).Nodup

theorem Keys.of_same {scenes scenes' : List Scene} (h : Keys scenes)
    (hsame : scenes'.map (·.key) = scenes.map (·.key)) : Keys scenes' := by
  refine ⟨fun scene' hscene' => ?_, hsame ▸ h.nodup⟩
  have hmem : scene'.key ∈ scenes.map (·.key) := hsame ▸ List.mem_map_of_mem hscene'
  obtain ⟨scene, hscene, heq⟩ := List.mem_map.mp hmem
  exact heq ▸ h.slugs scene hscene

theorem Keys.append {scenes : List Scene} (h : Keys scenes) {desired key : String} {scene : Scene}
    (hdesired : Slug desired.toList) (hkey : uniqueKey desired (scenes.map (·.key)) = .ok key)
    (hscene : scene.key = key) : Keys (scenes ++ [scene]) := by
  subst hscene
  constructor
  · intro scene' hscene'
    rcases List.mem_append.mp hscene' with hscene' | hscene'
    · exact h.slugs scene' hscene'
    · rw [List.mem_singleton.mp hscene']
      exact uniqueKey_slug hdesired hkey
  · rw [List.map_append, List.map_singleton]
    refine List.nodup_append.mpr ⟨h.nodup, List.nodup_singleton _, fun a ha b hb heq => ?_⟩
    rw [List.mem_singleton.mp hb] at heq
    exact uniqueKey_fresh hkey (heq ▸ ha)

theorem Keys.filter {scenes : List Scene} (h : Keys scenes) (p : Scene → Bool) : Keys (scenes.filter p) :=
  ⟨fun scene hscene => h.slugs scene (List.mem_filter.mp hscene).1, h.nodup.sublist (List.filter_sublist.map _)⟩

theorem Keys.tail {scene : Scene} {rest : List Scene} (h : Keys (scene :: rest)) : Keys rest :=
  ⟨fun scene' h' => h.slugs scene' (List.mem_cons_of_mem _ h'), (List.nodup_cons.mp h.nodup).2⟩

/-- With the first key taken, the other keys are still free. -/
theorem Keys.unseen {scene : Scene} {rest : List Scene} (h : Keys (scene :: rest)) {seen : List String}
    (hseen : ∀ scene' ∈ scene :: rest, scene'.key ∉ seen) : ∀ scene' ∈ rest, scene'.key ∉ scene.key :: seen := by
  intro scene' hscene' hin
  rcases List.mem_cons.mp hin with heq | hin
  · exact (List.nodup_cons.mp h.nodup).1 (List.mem_map.mpr ⟨scene', hscene', heq⟩)
  · exact hseen scene' (List.mem_cons_of_mem _ hscene') hin

/-- The keys in memory and in the file are in order. -/
structure Service.Keyed (s : Service) : Prop where
  cached : ∀ scenes, s.cache = some scenes → Keys scenes
  filed : ∀ now scenes nextId, load now s.file = .ok (scenes, nextId) → Keys scenes

section Keyed
variable {keyText : Key → String} {env : Env} {s : Service}

theorem items_keyed (now : String) (hs : s.Keyed) :
    (items now s).2.Keyed ∧ ∀ scenes, (items now s).1 = .ok scenes → Keys scenes := by
  unfold items
  cases hcache : s.cache with
  | some scenes => exact ⟨hs, fun scenes' h => Except.ok.inj h ▸ hs.cached scenes hcache⟩
  | none =>
    cases hload : load now s.file with
    | error e => exact ⟨hs, nofun⟩
    | ok loaded =>
      have hkeys := hs.filed now loaded.1 loaded.2 hload
      exact ⟨⟨fun scenes h => Option.some.inj h ▸ hkeys, hs.filed⟩, fun scenes h => Except.ok.inj h ▸ hkeys⟩

theorem writeItems_keyed (env : Env) (hs : s.Keyed) {scenes : List Scene} (hsound : ∀ scene ∈ scenes, scene.Sound)
    (hkeys : Keys scenes) : (writeItems keyText env s scenes).2.Keyed := by
  unfold writeItems
  split
  · refine ⟨nofun, fun now scenes' nextId hload => ?_⟩
    obtain ⟨scenes'', nextId', hload', hreloaded⟩ := load_payload keyText now s.nextId hsound
    cases hload.symm.trans hload'
    refine hkeys.of_same ?_
    have hsame : List.Forall₂ (· = ·) (scenes'.map (·.key)) (scenes.map (·.key)) := by
      rw [List.forall₂_map_left_iff, List.forall₂_map_right_iff]
      exact hreloaded.flip.imp fun _ _ h => h.key
    rwa [List.forall₂_eq_eq_eq] at hsame
  · exact hs

theorem create_keyed (hs : s.Keyed) (hsound : s.All Scene.Sound fun _ => True) (args : CreateArgs) :
    (create keyText env s args).2.Keyed := by
  refine andThen_state hs fun draft hdraft => ?_
  obtain ⟨hs', hkeys⟩ := items_keyed env.now hs
  obtain ⟨-, hscenes⟩ := items_all (sound_invariant keyText) env.now hsound
  refine andThen_state hs' fun scenes hitems => andThen_state hs' fun key hkey => ?_
  have happended : Keys (scenes ++ [draft.named ((items env.now s).2.nextId.getD 0) key]) :=
    (hkeys scenes hitems).append (slugify_slug _) hkey rfl
  have hall : ∀ scene ∈ scenes ++ [draft.named ((items env.now s).2.nextId.getD 0) key], scene.Sound := by
    intro scene hmem
    rcases List.mem_append.mp hmem with hmem | hmem
    · exact hscenes scenes hitems scene hmem
    · rw [List.mem_singleton.mp hmem]
      exact call_keeps_sound env (.create args) draft hdraft _ _
  refine andThen_answer (writeItems_keyed env ?_ hall happended)
  exact ⟨fun _ h => Option.some.inj h ▸ happended, hs'.filed⟩

theorem rewriteReferences_keyed (f : Int → Int) (hs : s.Keyed) (hsound : s.All Scene.Sound fun _ => True)
    (hrename : ∀ scene : Scene, scene.Sound → ∀ actions,
      canonicalActions (actionsJson (scene.actions.map (Action.rename f))) = .ok actions →
      Scene.Sound {scene with actions, updated := .str env.now}) :
    (rewriteReferences f keyText env s).2.Keyed := by
  obtain ⟨hs', hkeys⟩ := items_keyed env.now hs
  obtain ⟨-, hscenes⟩ := items_all (sound_invariant keyText) env.now hsound
  refine andThen_state hs' fun scenes hitems => andThen_state hs' fun rewritten hrewritten => ?_
  dsimp only
  split
  · exact hs'
  · have hkept : rewritten.2.map (·.key) = scenes.map (·.key) := by
      rw [← keys_eq, ← keys_eq, rewriteScenes_idents hrewritten]
    refine andThen_answer (writeItems_keyed env hs' ?_ ((hkeys scenes hitems).of_same hkept))
    exact rewriteScenes_all hrename (hscenes scenes hitems) hrewritten

/-- **One call keeps the keys in order.** -/
theorem after_keyed (hs : s.Keyed) (hsound : s.All Scene.Sound fun _ => True) (call : Call) :
    (after keyText env s call).Keyed := by
  obtain ⟨hs', hkeys⟩ := items_keyed env.now hs
  obtain ⟨hsound', hscenes⟩ := items_all (sound_invariant keyText) env.now hsound
  cases call with
  | get key => exact andThen_answer hs'
  | create args => exact create_keyed hs hsound args
  | update key args =>
    refine andThen_state hs fun given hgiven => andThen_state hs' fun scenes hitems =>
      andThen_state hs' fun found hfound => ?_
    cases found with
    | none => exact hs'
    | some pair =>
      have hkept : pair.2.map (·.key) = scenes.map (·.key) := by
        rw [replaceFirst_eq] at hfound
        exact replaceFirst_map (fun _ _ h => (updatedScene_ok h).1) hfound
      refine andThen_answer (writeItems_keyed env hs' ?_ ((hkeys scenes hitems).of_same hkept))
      exact replaceFirst_all (call_keeps_sound env (.update key args) given hgiven) (hscenes scenes hitems) hfound
  | delete key =>
    refine andThen_state hs' fun scenes hitems => ?_
    dsimp only
    split
    · exact hs'
    · refine andThen_answer (writeItems_keyed env hs' ?_ ((hkeys scenes hitems).filter _))
      exact fun scene hmem => hscenes scenes hitems scene (List.mem_filter.mp hmem).1
  | duplicate key newLabel =>
    have hget : (get env.now s key).2.Keyed := andThen_answer hs'
    refine andThen_state hget fun found _ => ?_
    cases found with
    | none => exact hget
    | some src => exact andThen_answer (create_keyed hget (get_all (sound_invariant keyText) env.now hsound key).1 _)
  | renumber deletedGid => exact rewriteReferences_keyed _ hs hsound (call_keeps_sound env (.renumber deletedGid))
  | remap mapping =>
    show (remapGroupIds keyText env s mapping).2.Keyed
    unfold remapGroupIds
    split
    · exact hs
    · exact rewriteReferences_keyed _ hs hsound (call_keeps_sound env (.remap mapping))

/-- **In every store that is kept, scenes are titled and keys in order.** -/
theorem Kept.tidy (h : Kept keyText s) : s.All Scene.Titled TitledFile ∧ s.Keyed := by
  refine Reachable.invariant (I := fun s => s.All Scene.Titled TitledFile ∧ s.Keyed) (fun s hs => ?_)
    (fun s t hs hst => ?_) h
  · subst hs
    refine ⟨⟨nofun, fun now => ⟨[], 0, rfl, nofun⟩⟩, nofun, fun now scenes nextId hload => ?_⟩
    cases hload
    exact ⟨nofun, List.nodup_nil⟩
  · obtain ⟨hall, hkeyed⟩ := hs
    rcases hst with ⟨env, call, rfl⟩ | rfl
    · have hsound : s.All Scene.Sound fun _ => True :=
        ⟨fun scenes h scene hscene => (hall.cached scenes h scene hscene).toSound, trivial⟩
      exact ⟨after_all (titled_invariant keyText) hall (call_keeps_titled env call), after_keyed hkeyed hsound call⟩
    · exact ⟨⟨nofun, hall.file⟩, nofun, hkeyed.filed⟩

/-- The list of such a store, at any time. -/
theorem Kept.listed (h : Kept keyText s) (now : String) : ∃ scenes s', items now s = (.ok scenes, s') ∧
    s'.cache = some scenes ∧ (∀ scene ∈ scenes, scene.Titled) ∧ Keys scenes := by
  obtain ⟨hall, hkeyed⟩ := h.tidy
  obtain ⟨-, htitled⟩ := items_all (titled_invariant keyText) now hall
  obtain ⟨-, hkeys⟩ := items_keyed now hkeyed
  have hok : ∃ scenes, (items now s).1 = .ok scenes := by
    unfold items
    cases hcache : s.cache with
    | some scenes => exact ⟨scenes, rfl⟩
    | none =>
      obtain ⟨scenes, nextId, hload, -⟩ := hall.file now
      rw [hload]
      exact ⟨scenes, rfl⟩
  obtain ⟨scenes, hscenes⟩ := hok
  exact ⟨scenes, (items now s).2, Prod.ext hscenes rfl, items_cache hscenes, htitled scenes hscenes, hkeys scenes hscenes⟩

end Keyed

/-! ### The entries of a list -/

/-- What is to be kept of a scene: all but its id and its timestamps. -/
structure Content where
  key : String
  label : String
  actions : List Action
  stopOnError : Bool
  networkScope : NetworkScope
deriving DecidableEq, Repr

def Scene.content (scene : Scene) : Content :=
  ⟨scene.key, scene.label, scene.actions, scene.stopOnError, scene.networkScope⟩

/-- What `list` shows of the contents. -/
def contents (now : String) (s : Service) : Except PyError (List Content) :=
  (items now s).1.map (·.map Scene.content)

/-- The entry is the scene as far as it goes. -/
structure Imports (scene : Scene) (imported : ImportedScene) : Prop where
  key : imported.key = scene.key
  label : imported.label = scene.label
  actions : imported.actions = scene.actions

/-- What a load makes of an imported scene: two fields have their defaults. -/
def ImportedScene.content (keyText : Key → String) (imported : ImportedScene) : Content :=
  ⟨imported.key, imported.label, imported.actions.map (Action.dumped keyText), true, .auto⟩

section Entries
variable {keyText : Key → String} {now : String} {scene : Scene} {scenes : List Scene}

/-- A listed key is taken as it is. -/
theorem importKey_listed {seen : List String} (hslug : Slug scene.key.toList) (hseen : scene.key ∉ seen) :
    importKey slugify seen scene.toJson = .ok scene.key := by
  have hne : scene.key ≠ "" := fun h => hslug.nonempty (by rw [h]; rfl)
  have hkey : (Json.str scene.key).truthy = true := by simpa [Json.truthy] using hne
  have hgetKey : scene.toJson.attrGet "key" = .ok (.str scene.key) := rfl
  have hgetLabel : scene.toJson.attrGet "label" = .ok (.str scene.label) := rfl
  rw [importKey, hgetKey, ok_bind, hgetLabel, ok_bind, Json.orElse, if_pos hkey]
  dsimp only
  rw [slugify_of_slug hslug, uniqueKey, if_pos hseen]

theorem importLabel_listed (htitled : scene.Titled) (key : String) :
    importLabel key scene.toJson = .ok scene.label := by
  have hlabel : (Json.str scene.label).truthy = true := by simpa [Json.truthy] using htitled.named
  have hgetLabel : scene.toJson.attrGet "label" = .ok (.str scene.label) := rfl
  rw [importLabel, hgetLabel, ok_bind, Json.orElse, if_pos hlabel]
  dsimp only
  rw [htitled.stripped]

/-- The entry of a listed scene, if its actions are accepted. -/
def listedEntry (now : String) (id : Int) (scene : Scene) : Except PyError ImportedScene :=
  (canonicalActions (actionsJson scene.actions)).map fun actions =>
    ⟨id, scene.key, scene.label, scene.created.orElse (.str now), scene.updated.orElse (.str now), actions⟩

theorem importScene_listed (htitled : scene.Titled) (id : Int) :
    importScene now id scene.key scene.toJson = listedEntry now id scene := by
  rw [importScene, importLabel_listed htitled, listedEntry]
  show (do let actions ← canonicalActions (actionsJson scene.actions); .ok _) = _
  cases canonicalActions (actionsJson scene.actions) <;> rfl

theorem importEntries_cons (htitled : scene.Titled) (hslug : Slug scene.key.toList) {seen : List String}
    (hseen : scene.key ∉ seen) (nextId : Option Int) (rest : List Json) :
    importEntries slugify (importScene now) seen nextId (scene.toJson :: rest) =
      andThen (listedEntry now (nextId.getD 0) scene, some (nextId.getD 0 + 1)) fun e nextId =>
      andThen (importEntries slugify (importScene now) (scene.key :: seen) nextId rest) fun es nextId =>
      (.ok (e :: es), nextId) := by
  rw [importEntries, importKey_listed hslug hseen, andThen_ok]
  dsimp only
  rw [importScene_listed htitled]

/-- **A listed store is taken entry by entry.** -/
theorem importEntries_listed (htitled : ∀ scene ∈ scenes, scene.Titled) (hkeys : Keys scenes)
    (hcanonical : ∀ scene ∈ scenes, CanonicalList scene.actions) {seen : List String}
    (hseen : ∀ scene ∈ scenes, scene.key ∉ seen) (nextId : Option Int) :
    ∃ imported nextId', importEntries slugify (importScene now) seen nextId (scenes.map Scene.toJson) =
      (.ok imported, nextId') ∧ List.Forall₂ Imports scenes imported := by
  induction scenes generalizing seen nextId with
  | nil => exact ⟨[], nextId, rfl, .nil⟩
  | cons scene rest ih =>
    have hmem := List.mem_cons_self (a := scene) (l := rest)
    obtain ⟨imported, nextId', himport, hall⟩ := ih (fun scene' h => htitled scene' (List.mem_cons_of_mem _ h))
      hkeys.tail (fun scene' h => hcanonical scene' (List.mem_cons_of_mem _ h)) (hkeys.unseen hseen)
      (some (nextId.getD 0 + 1))
    refine ⟨⟨nextId.getD 0, scene.key, scene.label, scene.created.orElse (.str now), scene.updated.orElse (.str now),
      scene.actions⟩ :: imported, nextId', ?_, .cons ⟨rfl, rfl, rfl⟩ hall⟩
    rw [List.map_cons, importEntries_cons (htitled scene hmem) (hkeys.slugs scene hmem) (hseen scene hmem), listedEntry,
      canonicalActions_toJson (hcanonical scene hmem)]
    dsimp only [Except.map]
    rw [andThen_ok, himport, andThen_ok]

/-- An entry whose actions are refused ends the replacement. -/
theorem canonical_of_imported (htitled : ∀ scene ∈ scenes, scene.Titled) (hkeys : Keys scenes) {seen : List String}
    (hseen : ∀ scene ∈ scenes, scene.key ∉ seen) {nextId nextId' : Option Int} {imported : List ImportedScene}
    (h : importEntries slugify (importScene now) seen nextId (scenes.map Scene.toJson) = (.ok imported, nextId')) :
    ∀ scene ∈ scenes, ∀ a ∈ scene.actions, a.Canonical := by
  induction scenes generalizing seen nextId nextId' imported with
  | nil => exact nofun
  | cons scene rest ih =>
    have hmem := List.mem_cons_self (a := scene) (l := rest)
    have htitle := htitled scene hmem
    rw [List.map_cons, importEntries_cons htitle (hkeys.slugs scene hmem) (hseen scene hmem)] at h
    obtain ⟨e, hscene, h⟩ := andThen_pure_eq_ok.mp h
    obtain ⟨actions, hactions, -⟩ := map_ok.mp hscene
    obtain ⟨imported', nextId'', hrest, -⟩ := andThen_eq_ok.mp h
    refine List.forall_mem_cons.mpr ⟨?_, ?_⟩
    · by_contra hbad
      obtain ⟨text, args, herror⟩ := canonicalActions_refused htitle.actions htitle.count hbad
      cases hactions.symm.trans herror
    · exact ih (fun scene' h => htitled scene' (List.mem_cons_of_mem _ h)) hkeys.tail (hkeys.unseen hseen) hrest

variable (keyText now) in
theorem loadScenes_imported {imported : List ImportedScene} (index : Nat) (used : List Int)
    (hcanonical : ∀ entry ∈ imported, CanonicalList entry.actions) :
    ∃ scenes used', loadScenes now index used (imported.map fun entry => entry.toJson.dump keyText) =
      .ok (scenes, used') ∧ scenes.map Scene.content = imported.map (ImportedScene.content keyText) := by
  induction imported generalizing index used with
  | nil => exact ⟨[], used, rfl, rfl⟩
  | cons entry rest ih =>
    have hlist := hcanonical entry (List.mem_cons_self ..)
    have hactions : loadActions ((actionsJson entry.actions).dump keyText) =
        .ok (entry.actions.map (Action.dumped keyText)) :=
      (loadActions_stored keyText hlist.count fun a ha => .inl (hlist.actions a ha)).1 hlist.actions
    obtain ⟨scenes, used', hload, hcontents⟩ := ih (index + 1) (freeId used used.length entry.id :: used)
      fun entry' h => hcanonical entry' (List.mem_cons_of_mem _ h)
    let scene' : Scene := {
      id := freeId used used.length entry.id, key := entry.key, label := entry.label
      created := (entry.created.dump keyText).orElse (.str now)
      updated := (entry.updated.dump keyText).orElse ((entry.created.dump keyText).orElse (.str now))
      actions := entry.actions.map (Action.dumped keyText), stopOnError := true, networkScope := .auto }
    refine ⟨scene' :: scenes, used', ?_, ?_⟩
    · rw [List.map_cons, ImportedScene.dump_toJson]
      simp [loadScenes, dict, Dict.get, loadId, Json.toInt, hactions, canonicalNetworkScope, hload, coerceBool, scene']
    · rw [List.map_cons, List.map_cons, hcontents]
      rfl

end Entries

/-! ### What a replacement keeps -/

/-- A scene after the replacement. -/
def Scene.replaced (keyText : Key → String) (scene : Scene) : Content :=
  ⟨scene.key, scene.label, scene.actions.map (Action.dumped keyText), true, .auto⟩

/-- The store is replaced by its own list: the call returns, and the list shows what it showed before, here
and in a new service over the file. -/
def PreservesContent (keyText : Key → String) (env : Env) (s : Service) : Prop :=
  ∃ scenes s', items env.now s = (.ok scenes, s') ∧
    let out := replaceAll keyText env s' (scenes.map Scene.toJson)
    out.1 = .ok () ∧ ∀ now, contents now out.2 = .ok (scenes.map Scene.content) ∧
      contents now (.fresh out.2.file) = .ok (scenes.map Scene.content)

/-- A scene that loses nothing: the two fields that are left out have their defaults, and the actions are as
every list that was read from the file has them. -/
structure Scene.Plain (scene : Scene) : Prop where
  stopOnError : scene.stopOnError = true
  networkScope : scene.networkScope = .auto
  actions : ∀ a ∈ scene.actions, a.Canonical ∧ a.Textual

section Replace
variable {keyText : Key → String} {env : Env} {s : Service} {scenes : List Scene}

theorem replaceAll_cached (hcache : s.cache = some scenes) (entries : List Json) :
    replaceAll keyText env s entries =
      andThen ((importEntries slugify (importScene env.now) [] s.nextId entries).1,
        {s with nextId := (importEntries slugify (importScene env.now) [] s.nextId entries).2}) fun imported s =>
      writeImported keyText env s imported := by
  have hitems : items env.now s = (.ok scenes, s) := by rw [items, hcache]
  rw [replaceAll, hitems]
  rfl

theorem replaced_of_imports {imported : List ImportedScene} (h : List.Forall₂ Imports scenes imported) :
    imported.map (ImportedScene.content keyText) = scenes.map (Scene.replaced keyText) := by
  have hsame : List.Forall₂ (· = ·) (imported.map (ImportedScene.content keyText))
      (scenes.map (Scene.replaced keyText)) := by
    rw [List.forall₂_map_left_iff, List.forall₂_map_right_iff]
    refine h.flip.imp fun entry scene himports => ?_
    rw [ImportedScene.content, himports.key, himports.label, himports.actions]
    rfl
  rwa [List.forall₂_eq_eq_eq] at hsame

variable (keyText env) in
/-- **A replacement by the own list returns just when the file can be written and the actions are canonical.** -/
theorem replaceAll_returns (hcache : s.cache = some scenes) (htitled : ∀ scene ∈ scenes, scene.Titled)
    (hkeys : Keys scenes) :
    (replaceAll keyText env s (scenes.map Scene.toJson)).1 = .ok () ↔
      env.writable = true ∧ ∀ scene ∈ scenes, ∀ a ∈ scene.actions, a.Canonical := by
  rw [replaceAll_cached hcache]
  constructor
  · intro h
    cases himport : importEntries slugify (importScene env.now) [] s.nextId (scenes.map Scene.toJson) with
    | mk answer nextId =>
      rw [himport] at h
      cases answer with
      | error e => cases h
      | ok imported =>
        refine ⟨?_, canonical_of_imported htitled hkeys (fun _ _ => List.not_mem_nil) himport⟩
        rw [andThen_ok, writeImported] at h
        by_contra hwritable
        rw [if_neg hwritable] at h
        cases h
  · rintro ⟨hwritable, hcanonical⟩
    obtain ⟨imported, nextId, himport, -⟩ := importEntries_listed htitled hkeys
      (fun scene hscene => ⟨(htitled scene hscene).count, hcanonical scene hscene⟩)
      (fun _ _ => List.not_mem_nil) s.nextId
    rw [himport, andThen_ok, writeImported, if_pos hwritable]

variable (keyText) in
/-- The store after it. -/
theorem replaceAll_replaced (hcache : s.cache = some scenes) (htitled : ∀ scene ∈ scenes, scene.Titled)
    (hkeys : Keys scenes) (hwritable : env.writable = true)
    (hcanonical : ∀ scene ∈ scenes, ∀ a ∈ scene.actions, a.Canonical) (now : String) :
    let out := (replaceAll keyText env s (scenes.map Scene.toJson)).2
    out.cache = none ∧ ∃ scenes' nextId, load now out.file = .ok (scenes', nextId) ∧
      scenes'.map Scene.content = scenes.map (Scene.replaced keyText) := by
  have hlists : ∀ scene ∈ scenes, CanonicalList scene.actions := fun scene hscene =>
    ⟨(htitled scene hscene).count, hcanonical scene hscene⟩
  obtain ⟨imported, nextId, himport, hall⟩ := importEntries_listed htitled hkeys hlists
    (fun _ _ => List.not_mem_nil) s.nextId
  have himported : ∀ entry ∈ imported, CanonicalList entry.actions := fun entry hentry => by
    obtain ⟨scene, hscene, himports⟩ := exists_of_forall₂_right hall hentry
    exact himports.actions ▸ hlists scene hscene
  obtain ⟨scenes', used, hload, hcontents⟩ := loadScenes_imported keyText now 0 [] himported
  rw [replaceAll_cached hcache, himport, andThen_ok, writeImported, if_pos hwritable]
  refine ⟨rfl, scenes', loadNextId (.int (nextId.getD (maxId (imported.map (·.id)) + 1))) used, ?_,
    hcontents.trans (replaced_of_imports hall)⟩
  dsimp only
  rw [importPayload, Json.dump_dict keyText (by simp)]
  simp [load, dict, Dict.get, Dict.getD, Json.dump, Json.dumpItems_eq_map, Json.orElse, Json.truthy,
    Json.toInt, SCHEMA_VERSION, Function.comp_def, hload]

theorem contents_of_load {now : String} {nextId : Int} (hcache : s.cache = none)
    (hload : load now s.file = .ok (scenes, nextId)) : contents now s = .ok (scenes.map Scene.content) := by
  rw [contents, items, hcache]
  dsimp only
  rw [hload]
  rfl

/-- The contents are those from before just when nothing had been set that is left out. -/
theorem replaced_eq_iff : scenes.map (Scene.replaced keyText) = scenes.map Scene.content ↔
    ∀ scene ∈ scenes, scene.stopOnError = true ∧ scene.networkScope = .auto ∧ ∀ a ∈ scene.actions, a.Textual := by
  rw [List.map_inj_left]
  refine forall₂_congr fun scene _ => ?_
  rw [Scene.replaced, Scene.content, Content.mk.injEq, map_eq_self]
  simp only [Action.dumped_eq_self]
  grind

/-- **Replacing a store by its own list** keeps the contents just when the file can be written and every
scene is plain. -/
theorem replaceAll_preserves (hs : Kept keyText s) (env : Env) : PreservesContent keyText env s ↔
    env.writable = true ∧ ∀ scenes, (items env.now s).1 = .ok scenes → ∀ scene ∈ scenes, scene.Plain := by
  obtain ⟨scenes, s', hitems, hcache, htitled, hkeys⟩ := hs.listed env.now
  have hreturns := replaceAll_returns keyText env hcache htitled hkeys
  have hcontents : ∀ now, env.writable = true → (∀ scene ∈ scenes, ∀ a ∈ scene.actions, a.Canonical) →
      let out := (replaceAll keyText env s' (scenes.map Scene.toJson)).2
      contents now out = .ok (scenes.map (Scene.replaced keyText)) ∧
        contents now (.fresh out.file) = .ok (scenes.map (Scene.replaced keyText)) := by
    intro now hwritable hcanonical
    obtain ⟨hnone, scenes', nextId, hload, hsame⟩ :=
      replaceAll_replaced keyText hcache htitled hkeys hwritable hcanonical now
    rw [← hsame]
    exact ⟨contents_of_load hnone hload, contents_of_load rfl hload⟩
  rw [hitems]
  constructor
  · rintro ⟨scenes'', s'', hitems', hanswer, hkept⟩
    cases hitems.symm.trans hitems'
    obtain ⟨hwritable, hcanonical⟩ := hreturns.mp hanswer
    have hsame := (hcontents env.now hwritable hcanonical).1.symm.trans (hkept env.now).1
    have hplain := replaced_eq_iff.mp (Except.ok.inj hsame)
    refine ⟨hwritable, fun scenes' h scene hscene => ?_⟩
    cases h
    obtain ⟨hstop, hscope, htextual⟩ := hplain scene hscene
    exact ⟨hstop, hscope, fun a ha => ⟨hcanonical scene hscene a ha, htextual a ha⟩⟩
  · rintro ⟨hwritable, hplain⟩
    have hscenes := hplain scenes rfl
    have hcanonical : ∀ scene ∈ scenes, ∀ a ∈ scene.actions, a.Canonical := fun scene hscene a ha =>
      ((hscenes scene hscene).actions a ha).1
    have hsame : scenes.map (Scene.replaced keyText) = scenes.map Scene.content :=
      replaced_eq_iff.mpr fun scene hscene => ⟨(hscenes scene hscene).stopOnError, (hscenes scene hscene).networkScope,
        fun a ha => ((hscenes scene hscene).actions a ha).2⟩
    refine ⟨scenes, s', hitems, hreturns.mpr ⟨hwritable, hcanonical⟩, fun now => ?_⟩
    rw [← hsame]
    exact hcontents now hwritable hcanonical

/-! ### Lists that were read -/

/-- The file is absent, or the store wrote sound scenes to it. -/
def WrittenFile (keyText : Key → String) (file : File) : Prop :=
  file = .missing ∨ ∃ nextId scenes, (∀ scene ∈ scenes, scene.Sound) ∧
    file = .doc ((payload nextId scenes).dump keyText)

theorem Kept.written (hs : Kept keyText s) : WrittenFile keyText s.file := by
  have hinv : StoreInvariant keyText Scene.Sound (WrittenFile keyText) :=
    ⟨fun _ hload => load_sound hload, fun hscenes => .inr ⟨_, _, hscenes, rfl⟩⟩
  have hall : s.All Scene.Sound (WrittenFile keyText) := by
    refine Reachable.invariant (I := fun s => s.All Scene.Sound (WrittenFile keyText)) (fun s hs => ?_)
      (fun s t hs hst => ?_) hs
    · subst hs
      exact ⟨nofun, .inl rfl⟩
    · rcases hst with ⟨env, call, rfl⟩ | rfl
      · exact after_all hinv hs (call_keeps_sound env call)
      · exact ⟨nofun, hs.file⟩
  exact hall.file

/-- What is read from the file is canonical and textual. -/
theorem Kept.read_actions (hs : Kept keyText s) {now : String} {nextId : Int}
    (hload : load now s.file = .ok (scenes, nextId)) :
    ∀ scene ∈ scenes, ∀ a ∈ scene.actions, a.Canonical ∧ a.Textual := by
  rcases hs.written with hfile | ⟨counter, stored, hsound, hfile⟩
  · rw [hfile] at hload
    cases hload
    exact nofun
  · rw [hfile] at hload
    obtain ⟨scenes', nextId', hload', hreloaded⟩ := load_payload keyText now counter hsound
    cases hload.symm.trans hload'
    intro scene hscene a ha
    obtain ⟨origin, horigin, hsame⟩ := exists_of_forall₂_right hreloaded hscene
    have hreread : rereadActions keyText origin.actions = scene.actions := by
      rw [rereadActions, hsame.actions]
      rfl
    have htextual : ∀ a ∈ rereadActions keyText origin.actions, a.Textual :=
      rereadActions_textual (hsound origin horigin).count (hsound origin horigin).actions
    exact ⟨(loadActions_canonical hsame.actions).actions a ha, htextual a (hreread.symm ▸ ha)⟩

/-- **After a call that wrote the file, and in a new service, only the two fields count.** -/
theorem replaceAll_preserves_read (hs : Kept keyText s) (hcache : s.cache = none) (env : Env) :
    PreservesContent keyText env s ↔ env.writable = true ∧ ∀ scenes, (items env.now s).1 = .ok scenes →
      ∀ scene ∈ scenes, scene.stopOnError = true ∧ scene.networkScope = .auto := by
  rw [replaceAll_preserves hs]
  refine and_congr_right fun _ => forall₂_congr fun scenes hscenes => forall₂_congr fun scene hscene => ?_
  have hload : ∃ nextId, load env.now s.file = .ok (scenes, nextId) := by
    rw [items, hcache] at hscenes
    dsimp only at hscenes
    cases hload : load env.now s.file with
    | error e =>
      rw [hload] at hscenes
      cases hscenes
    | ok loaded =>
      rw [hload] at hscenes
      cases hscenes
      exact ⟨loaded.2, rfl⟩
  obtain ⟨nextId, hload⟩ := hload
  have hactions := hs.read_actions hload scene hscene
  exact ⟨fun h => ⟨h.stopOnError, h.networkScope⟩, fun h => ⟨h.1, h.2, hactions⟩⟩

end Replace

/-! ### A scene that goes on after errors -/

/-- The world of the examples. -/
def noon : Env := ⟨"2026-01-01T12:00:00", true, none⟩

/-- A store in which one scene was created. -/
def oneScene (stopOnError networkScope : Json) : Service :=
  (create (fun _ => "") noon (.fresh .missing)
    { label := "Lap", actions := .arr [dict [("kind", .str "sync")]], stopOnError, networkScope }).2

theorem oneScene_kept (stopOnError networkScope : Json) : Kept (fun _ => "") (oneScene stopOnError networkScope) :=
  .next (.start rfl) (.inl ⟨noon, .create _, rfl⟩)

def lap (stopOnError : Bool) (networkScope : NetworkScope) : Scene where
  id := 0
  key := "lap"
  label := "Lap"
  created := .str noon.now
  updated := .str noon.now
  actions := [.sync]
  stopOnError
  networkScope

theorem replaceAll_preserves_default : PreservesContent (fun _ => "") noon (oneScene .null .null) := by
  have hitems : (items noon.now (oneScene .null .null)).1 = .ok [lap true .auto] := by rfl
  refine (replaceAll_preserves (oneScene_kept .null .null) noon).mpr ⟨rfl, fun scenes h scene hscene => ?_⟩
  cases hitems.symm.trans h
  obtain rfl := List.mem_singleton.mp hscene
  refine ⟨rfl, rfl, fun a ha => ?_⟩
  obtain rfl := List.mem_singleton.mp ha
  exact ⟨⟨trivial, rfl⟩, trivial⟩

/-- The same scene, set to go on after errors and to stay on one network. -/
def pitLap : Service := oneScene (.bool false) (dict [("mode", .str "explicit"), ("network_ids", .arr [.str "pit"])])

/-- It comes back as one that stops after errors, on any network. -/
theorem replaceAll_resets :
    Kept (fun _ => "") pitLap ∧ (items noon.now pitLap).1 = .ok [lap false (.explicit ["pit"])] ∧
      contents noon.now (replaceAll (fun _ => "") noon pitLap [(lap false (.explicit ["pit"])).toJson]).2 =
        .ok [⟨"lap", "Lap", [.sync], true, .auto⟩] ∧
      ¬ PreservesContent (fun _ => "") noon pitLap := by
  refine ⟨oneScene_kept _ _, rfl, rfl, ?_⟩
  rintro ⟨scenes, s', hitems, -, hkept⟩
  have hlist : items noon.now pitLap = (.ok [lap false (.explicit ["pit"])], (items noon.now pitLap).2) := rfl
  cases hlist.symm.trans hitems
  have hout : contents noon.now (replaceAll (fun _ => "") noon (items noon.now pitLap).2
      [(lap false (.explicit ["pit"])).toJson]).2 = .ok [⟨"lap", "Lap", [.sync], true, .auto⟩] := rfl
  cases hout.symm.trans (hkept noon.now).1

end RaceLink.Scenes
