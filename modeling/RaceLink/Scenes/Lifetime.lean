import RaceLink.Library.Ledger
import RaceLink.Scenes.Bulk
import RaceLink.Scenes.Loading
import RaceLink.Scenes.Reload

/-! The ids and keys of the scene store over its lifetime: calls, bulk replacements
and restarts in any order.

The store refines a ledger (`Service.Holds`): the file holds its entries under the
durable counter, the cache the same entries under the counter in use. All calls
advance the ledger, except a `create` whose write fails: the scene is then in the
cached list, with an id that the file does not know of. -/
namespace RaceLink.Scenes
open Python Library

/-! ### Saved ledgers -/

/-- The counter a load finds in a file that was written with the counter `n`. -/
def reloadedCounter (n : Int) (entries : List (Int × String)) : Int :=
  loadNextId (.int n) (entries.map Prod.fst).reverse

/-- The ledger a store holds after a write. -/
def saved {l : Ledger String} {entries : List (Int × String)} {n : Int} (h : l.Rewrite entries n) :
    Ledger String where
  entries
  durable := reloadedCounter n entries
  ahead := reloadedCounter n entries
  ids_nodup := h.ids
  keys_nodup := h.keys
  below := fun _ he => lt_loadNextId _ (List.mem_reverse.mpr (List.mem_map_of_mem he))
  counter := Int.le_refl _

theorem advance_saved {l : Ledger String} {entries : List (Int × String)} {n : Int}
    (h : l.Rewrite entries n) : l.Advance (saved h) := by
  refine h.advance rfl (le_loadNextId fun id hid => ?_)
  obtain ⟨e, he, rfl⟩ := List.mem_map.mp (List.mem_reverse.mp hid)
  exact h.below e he

theorem importKey_fresh {slugify : String → String} {seen : List String} {entry : Json} {key : String}
    (h : importKey slugify seen entry = .ok key) : key ∉ seen := by
  obtain ⟨raw, -, h⟩ := bind_ok.mp h
  obtain ⟨label, -, h⟩ := bind_ok.mp h
  split at h
  · exact uniqueKey_fresh h
  · cases h

section Import
variable {E : Type} {ident : E → Int × String} {slugify : String → String}
variable {body : Int → String → Json → Except PyError E}

/-- The loop does not lower the counter. -/
theorem importEntries_counter (slugify : String → String)
    (body : Int → String → Json → Except PyError E) (seen : List String) (n : Int) (entries : List Json) :
    ∃ n', (importEntries slugify body seen (some n) entries).2 = some n' ∧ n ≤ n' := by
  induction entries generalizing seen n with
  | nil => exact ⟨n, rfl, Int.le_refl _⟩
  | cons entry rest ih =>
    rw [importEntries]
    refine andThen_state (I := fun nextId => ∃ n', nextId = some n' ∧ n ≤ n') ⟨n, rfl, Int.le_refl _⟩
      fun key _ => ?_
    refine andThen_state (I := fun nextId => ∃ n', nextId = some n' ∧ n ≤ n') ⟨n + 1, rfl, by omega⟩
      fun e _ => ?_
    obtain ⟨n', hn', hle⟩ := ih (key :: seen) (n + 1)
    exact andThen_answer (I := fun nextId => ∃ n', nextId = some n' ∧ n ≤ n') ⟨n', hn', by omega⟩

/-- The imported entries claim their ids one after the other, and their keys are distinct. -/
theorem importEntries_claims
    (hbody : ∀ {id key entry e}, body id key entry = .ok e → ident e = (id, key))
    {entries : List Json} {seen : List String} {n : Int} {es : List E} {nextId : Option Int}
    (h : importEntries slugify body seen (some n) entries = (.ok es, nextId)) :
    ∃ n', nextId = some n' ∧ Ledger.Claims n (es.map ident) n' ∧
      ((es.map ident).map Prod.snd).Nodup ∧ ∀ e ∈ es, (ident e).2 ∉ seen := by
  induction entries generalizing seen n es nextId with
  | nil =>
    cases h
    exact ⟨n, rfl, rfl, List.nodup_nil, by simp⟩
  | cons entry rest ih =>
    rw [importEntries] at h
    obtain ⟨key, hkey, h⟩ := andThen_pure_eq_ok.mp h
    obtain ⟨e, he, h⟩ := andThen_pure_eq_ok.mp h
    obtain ⟨es', nextId', hrest, h⟩ := andThen_eq_ok.mp h
    cases h
    obtain ⟨n', hn', hclaims, hkeys, hseen⟩ := ih hrest
    have hident : ident e = (n, key) := hbody he
    refine ⟨n', hn', ⟨by rw [hident], hclaims⟩, ?_, fun e' he' => ?_⟩
    · rw [List.map_cons, List.map_cons, hident]
      refine List.nodup_cons.mpr ⟨fun hmem => ?_, hkeys⟩
      rw [List.map_map] at hmem
      obtain ⟨e', he', heq⟩ := List.mem_map.mp hmem
      exact hseen e' he' (List.mem_cons.mpr (.inl heq))
    · rcases List.mem_cons.mp he' with rfl | he'
      · rw [hident]
        exact importKey_fresh hkey
      · exact fun hmem => hseen e' he' (List.mem_cons_of_mem _ hmem)

/-- What the conversion of an entry ensures holds of all that were converted. -/
theorem importEntries_all {P : E → Prop}
    (hbody : ∀ {id key entry e}, body id key entry = .ok e → P e) {entries : List Json}
    {seen : List String} {nextId nextId' : Option Int} {es : List E}
    (h : importEntries slugify body seen nextId entries = (.ok es, nextId')) : ∀ e ∈ es, P e := by
  induction entries generalizing seen nextId es with
  | nil =>
    cases h
    simp
  | cons entry rest ih =>
    rw [importEntries] at h
    obtain ⟨key, -, h⟩ := andThen_pure_eq_ok.mp h
    obtain ⟨e, he, h⟩ := andThen_pure_eq_ok.mp h
    obtain ⟨es', nextId'', hrest, h⟩ := andThen_eq_ok.mp h
    cases h
    exact List.forall_mem_cons.mpr ⟨hbody he, ih hrest⟩

end Import

/-! ### What a written file gives back -/

/-- A document with a list of scenes under a counter. -/
def storeDoc (n : Int) (raw : List Json) : Json :=
  dict [("schema_version", .int SCHEMA_VERSION), ("next_id", .int n), ("scenes", .arr raw)]

/-- A list written with distinct ids is loaded with the same ids and keys. -/
theorem load_storeDoc {n : Int} {raw : List Json} {entries : List (Int × String)}
    (hraw : List.Forall₂ Written raw entries) (hnodup : (entries.map Prod.fst).Nodup)
    (hconvertible : ∀ fields ∈ raw.filterMap named?, Convertible fields) (now : String) :
    ∃ scenes, load now (.doc (storeDoc n raw)) = .ok (scenes, reloadedCounter n entries) ∧
      scenes.map Scene.ident = entries := by
  obtain ⟨⟨scenes, nextId⟩, hload⟩ :=
    (load_ok_iff now (storeDoc n raw)).mpr ⟨⟨SCHEMA_VERSION, rfl⟩, hconvertible⟩
  obtain ⟨-, hturn, rfl⟩ := load_doc hload
  have hidents : scenes.map Scene.ident = entries := hturn.stored hraw hnodup (by simp)
  have hids : scenes.map Scene.id = entries.map Prod.fst := by
    rw [← hidents, List.map_map]
    rfl
  refine ⟨scenes, ?_, hidents⟩
  rw [hload, hids]
  rfl

section Written
variable {keyText : Key → String}

theorem forall₂_written {α : Type} {write : α → Json} {ident : α → Int × String}
    (h : ∀ x, Written (write x) (ident x)) (xs : List α) :
    List.Forall₂ Written (xs.map write) (xs.map ident) := by
  rw [List.forall₂_map_left_iff, List.forall₂_map_right_iff, List.forall₂_same]
  exact fun x _ => h x

theorem mem_named {α : Type} {write : α → Json} {xs : List α} {fields : Dict}
    (h : fields ∈ (xs.map write).filterMap named?) : ∃ x ∈ xs, named? (write x) = some fields := by
  obtain ⟨entry, hentry, hnamed⟩ := List.mem_filterMap.mp h
  obtain ⟨x, hx, rfl⟩ := List.mem_map.mp hentry
  exact ⟨x, hx, hnamed⟩

/-- Stored actions are never refused in a way that stops the loader. -/
theorem loadActions_stored_ok {actions : List Action} (hcount : actions.length ≤ MAX_ACTIONS_PER_SCENE)
    (hstored : ∀ a ∈ actions, a.Stored) :
    ∃ loaded, loadActions ((actionsJson actions).dump keyText) = .ok loaded := by
  obtain ⟨hgood, hbad⟩ := loadActions_stored keyText hcount hstored
  by_cases hc : ∀ a ∈ actions, a.Canonical
  · exact ⟨_, hgood hc⟩
  · exact ⟨_, hbad hc⟩

theorem scene_written (scene : Scene) : Written (scene.toJson.dump keyText) scene.ident := by
  rw [Scene.dump_toJson]
  exact ⟨_, rfl, rfl, rfl⟩

theorem scene_convertible {scene : Scene} (h : scene.Sound) {fields : Dict}
    (hnamed : named? (scene.toJson.dump keyText) = some fields) : Convertible fields := by
  rw [Scene.dump_toJson] at hnamed
  cases hnamed
  exact ⟨nofun, loadActions_ok_iff.mp (loadActions_stored_ok h.count h.actions),
    ⟨_, canonicalNetworkScope_toJson h.scope⟩⟩

theorem ImportedScene.dump_toJson (scene : ImportedScene) : scene.toJson.dump keyText =
    dict [("id", .int scene.id), ("key", .str scene.key), ("label", .str scene.label),
      ("created", scene.created.dump keyText), ("updated", scene.updated.dump keyText),
      ("actions", (actionsJson scene.actions).dump keyText)] := by
  rw [ImportedScene.toJson, Json.dump_dict keyText (by simp)]
  simp only [List.map_cons, List.map_nil, Json.dump]

def ImportedScene.ident (scene : ImportedScene) : Int × String := (scene.id, scene.key)

theorem imported_written (scene : ImportedScene) : Written (scene.toJson.dump keyText) scene.ident := by
  rw [ImportedScene.dump_toJson]
  exact ⟨_, rfl, rfl, rfl⟩

theorem imported_convertible {scene : ImportedScene} (h : CanonicalList scene.actions) {fields : Dict}
    (hnamed : named? (scene.toJson.dump keyText) = some fields) : Convertible fields := by
  rw [ImportedScene.dump_toJson] at hnamed
  cases hnamed
  exact ⟨nofun, loadActions_ok_iff.mp
    (loadActions_stored_ok h.count fun a ha => .inl (h.actions a ha)), ⟨.auto, rfl⟩⟩

theorem importScene_ok {now : String} {id : Int} {key : String} {entry : Json} {scene : ImportedScene}
    (h : importScene now id key entry = .ok scene) :
    scene.ident = (id, key) ∧ CanonicalList scene.actions := by
  obtain ⟨label, -, h⟩ := bind_ok.mp h
  obtain ⟨created, -, h⟩ := bind_ok.mp h
  obtain ⟨updated, -, h⟩ := bind_ok.mp h
  obtain ⟨raw, -, h⟩ := bind_ok.mp h
  obtain ⟨actions, hactions, h⟩ := bind_ok.mp h
  cases h
  exact ⟨rfl, canonicalActions_canonical hactions⟩

theorem dump_payload (n : Int) (scenes : List Scene) : (payload (some n) scenes).dump keyText =
    storeDoc n (scenes.map fun scene => scene.toJson.dump keyText) := by
  rw [payload, Json.dump_dict keyText (by simp)]
  simp only [List.map_cons, List.map_nil, Json.dump_arr, List.map_map]
  rfl

theorem dump_importPayload (n : Int) (imported : List ImportedScene) :
    (importPayload (some n) imported).dump keyText =
      storeDoc n (imported.map fun scene => scene.toJson.dump keyText) := by
  rw [importPayload, Json.dump_dict keyText (by simp)]
  simp only [List.map_cons, List.map_nil, Json.dump_arr, List.map_map]
  rfl

end Written

/-! ### The store and its ledger -/

/-- The ids and keys a caller sees. -/
def view (now : String) (s : Service) : List (Int × String) :=
  match (items now s).1 with
  | .ok scenes => scenes.map Scene.ident
  | .error _ => []

structure Service.Holds (s : Service) (l : Ledger String) : Prop where
  cached : ∀ scenes, s.cache = some scenes →
    scenes.map Scene.ident = l.entries ∧ s.nextId = some l.ahead ∧ ∀ scene ∈ scenes, scene.Sound
  filed : ∀ now, ∃ scenes, load now s.file = .ok (scenes, l.durable) ∧
    scenes.map Scene.ident = l.entries

/-- The store after `_items`. -/
structure Service.Ready (s : Service) (l : Ledger String) (scenes : List Scene) : Prop
    extends s.Holds l where
  cache : s.cache = some scenes

theorem Service.Ready.entries {s : Service} {l : Ledger String} {scenes : List Scene}
    (h : s.Ready l scenes) : scenes.map Scene.ident = l.entries := (h.cached scenes h.cache).1

theorem Service.Ready.nextId {s : Service} {l : Ledger String} {scenes : List Scene}
    (h : s.Ready l scenes) : s.nextId = some l.ahead := (h.cached scenes h.cache).2.1

theorem Service.Ready.sound {s : Service} {l : Ledger String} {scenes : List Scene}
    (h : s.Ready l scenes) : ∀ scene ∈ scenes, scene.Sound := (h.cached scenes h.cache).2.2

/-- `_items` answers, and at most the counter in use falls back. -/
theorem items_ready {s : Service} {l : Ledger String} (hs : s.Holds l) (now : String) :
    ∃ scenes s' l', items now s = (.ok scenes, s') ∧ s'.Ready l' scenes ∧
      l'.entries = l.entries ∧ l.Advance l' := by
  unfold items
  cases hcache : s.cache with
  | some scenes => exact ⟨scenes, s, l, rfl, ⟨hs, hcache⟩, rfl, .refl l⟩
  | none =>
    obtain ⟨scenes, hload, hentries⟩ := hs.filed now
    rw [hload]
    refine ⟨scenes, _, l.recount l.durable (Int.le_refl _), rfl, ⟨⟨fun scenes' h => ?_, hs.filed⟩, rfl⟩,
      rfl, l.advance_recount _ _⟩
    cases h
    exact ⟨hentries, rfl, load_sound hload⟩

theorem view_eq {s : Service} {l : Ledger String} (hs : s.Holds l) (now : String) :
    view now s = l.entries := by
  obtain ⟨scenes, s', l', hitems, hready, hentries, -⟩ := items_ready hs now
  rw [view, hitems]
  exact hready.entries.trans hentries

/-- A store holds a ledger that has advanced, with entries as `P` says. -/
def Service.Advanced (l : Ledger String) (P : List (Int × String) → Prop) (s : Service) : Prop :=
  ∃ l', s.Holds l' ∧ l.Advance l' ∧ P l'.entries

section Calls
variable {keyText : Key → String} {env : Env} {s : Service} {l : Ledger String}
variable {P : List (Int × String) → Prop}

theorem Service.Ready.unchanged {scenes : List Scene} (h : s.Ready l scenes) (hP : P l.entries) :
    s.Advanced l P := ⟨l, h.toHolds, .refl l, hP⟩

/-- What a call does after `_items`. -/
theorem items_andThen {α : Type} {now : String} {f : List Scene → Service → Except PyError α × Service}
    (hs : s.Holds l)
    (hf : ∀ scenes s' l', items now s = (.ok scenes, s') → s'.Ready l' scenes →
      l'.entries = l.entries → (f scenes s').2.Advanced l' P) :
    (andThen (items now s) f).2.Advanced l P := by
  obtain ⟨scenes, s', l', hitems, hready, hentries, hadvance⟩ := items_ready hs now
  rw [hitems, andThen_ok]
  obtain ⟨l'', hholds, hadvance', hP⟩ := hf scenes s' l' hitems hready hentries
  exact ⟨l'', hholds, hadvance.trans hadvance', hP⟩

/-- A write that succeeds leaves the rewritten ledger in the file. -/
theorem writeItems_holds {scenes : List Scene} {n : Int} (hwritable : env.writable = true)
    (hnext : s.nextId = some n) (hsound : ∀ scene ∈ scenes, scene.Sound)
    (h : l.Rewrite (scenes.map Scene.ident) n) :
    (writeItems keyText env s scenes).2.Holds (saved h) := by
  rw [writeItems, if_pos hwritable, hnext, dump_payload]
  refine ⟨nofun, load_storeDoc (forall₂_written scene_written scenes) h.ids fun fields hfields => ?_⟩
  obtain ⟨scene, hscene, hnamed⟩ := mem_named hfields
  exact scene_convertible (hsound scene hscene) hnamed

/-- A write of new scenes under the counter in use, whether or not it succeeds. -/
theorem writeItems_advanced {old scenes : List Scene} (hs : s.Ready l old)
    (hsound : ∀ scene ∈ scenes, scene.Sound) (h : l.Rewrite (scenes.map Scene.ident) l.ahead)
    (hold : P l.entries) (hnew : P (scenes.map Scene.ident)) :
    (writeItems keyText env s scenes).2.Advanced l P := by
  by_cases hwritable : env.writable = true
  · exact ⟨saved h, writeItems_holds hwritable hs.nextId hsound h, advance_saved h, hnew⟩
  · rw [writeItems, if_neg hwritable]
    exact hs.unchanged hold

/-- Ids that were claimed and given to nothing. -/
theorem Service.Ready.claimed {scenes : List Scene} (h : s.Ready l scenes) {n : Int} (hle : l.ahead ≤ n) :
    Service.Holds {s with nextId := some n} (l.recount n (Int.le_trans l.counter hle)) := by
  refine ⟨fun scenes' hcache => ?_, h.filed⟩
  obtain ⟨hentries, -, hsound⟩ := h.cached scenes' hcache
  exact ⟨hentries, rfl, hsound⟩

theorem writeImported_holds {imported : List ImportedScene} {n : Int} (hwritable : env.writable = true)
    (hnext : s.nextId = some n) (hcanonical : ∀ scene ∈ imported, CanonicalList scene.actions)
    (h : l.Rewrite (imported.map ImportedScene.ident) n) :
    (writeImported keyText env s imported).2.Holds (saved h) := by
  rw [writeImported, if_pos hwritable, hnext, dump_importPayload]
  refine ⟨nofun, load_storeDoc (forall₂_written imported_written imported) h.ids fun fields hfields => ?_⟩
  obtain ⟨scene, hscene, hnamed⟩ := mem_named hfields
  exact imported_convertible (hcanonical scene hscene) hnamed

theorem get_advanced (hs : s.Holds l) (now key : String) (hP : P l.entries) :
    (get now s key).2.Advanced l P :=
  items_andThen hs fun _ _ _ _ hready hentries => hready.unchanged (hentries ▸ hP)

/-- The key `create` asks for. -/
def desiredKey (args : CreateArgs) (draft : Scene) : String :=
  slugify (if args.key.getD "" = "" then draft.label else args.key.getD "")

/-- A `create` that gets as far as its write. -/
def Appends (env : Env) (s : Service) (args : CreateArgs) : Prop :=
  ∃ draft scenes s' key, draftScene env args = .ok draft ∧ items env.now s = (.ok scenes, s') ∧
    uniqueKey (desiredKey args draft) (scenes.map (·.key)) = .ok key

theorem keys_eq (scenes : List Scene) :
    (scenes.map Scene.ident).map Prod.snd = scenes.map (·.key) := by
  rw [List.map_map]
  rfl

/-- **A `create` advances the ledger, unless it gets to a write that fails.** -/
theorem create_advanced (keyText : Key → String) {args : CreateArgs} (hs : s.Holds l)
    (hwritable : Appends env s args → env.writable = true) :
    (create keyText env s args).2.Advanced l fun _ => True := by
  rw [create]
  cases hd : draftScene env args with
  | error e => exact ⟨l, hs, .refl l, trivial⟩
  | ok draft =>
    refine items_andThen hs fun scenes s' l' hitems hready hentries => ?_
    cases hkey : uniqueKey (desiredKey args draft) (scenes.map (·.key)) with
    | error e =>
      show (andThen (uniqueKey (desiredKey args draft) _, s') _).2.Advanced l' _
      rw [hkey]
      exact hready.unchanged trivial
    | ok key =>
      have hfresh : key ∉ l'.entries.map Prod.snd := by
        rw [← hready.entries, keys_eq]
        exact uniqueKey_fresh hkey
      have hidents : (scenes ++ [draft.named l'.ahead key]).map Scene.ident =
          l'.entries ++ [(l'.ahead, key)] := by
        rw [List.map_append, hready.entries]
        rfl
      have hrewrite : l'.Rewrite ((scenes ++ [draft.named l'.ahead key]).map Scene.ident)
          (l'.ahead + 1) := hidents ▸ l'.rewrite_append hfresh
      have hsound : ∀ scene ∈ scenes ++ [draft.named l'.ahead key], scene.Sound := by
        intro scene hmem
        rcases List.mem_append.mp hmem with hmem | hmem
        · exact hready.sound scene hmem
        · rw [List.mem_singleton.mp hmem]
          exact call_keeps_sound env (.create args) draft hd _ _
      show (andThen (uniqueKey (desiredKey args draft) _, s') _).2.Advanced l' _
      rw [hkey, andThen_ok, appendScene, hready.nextId]
      refine andThen_answer ⟨saved hrewrite, ?_, advance_saved hrewrite, trivial⟩
      exact writeItems_holds (hwritable ⟨draft, scenes, s', key, hd, hitems, hkey⟩) rfl hsound hrewrite

theorem updatedScene_ident {args : UpdateArgs} {actions : Option (List Action)}
    {scope : Option NetworkScope} {scene scene' : Scene}
    (h : updatedScene env args actions scope scene = .ok scene') : scene'.ident = scene.ident := by
  obtain ⟨label, -, h⟩ := bind_ok.mp h
  cases h
  rfl

theorem replaceFirst_eq (key : String) (f : Scene → Except PyError Scene) (scenes : List Scene) :
    replaceFirst key f scenes = Library.replaceFirst (·.key = key) f scenes := by
  induction scenes with
  | nil => rfl
  | cons scene rest ih =>
    by_cases h : scene.key = key
    · rw [replaceFirst, Library.replaceFirst, if_pos h, if_pos h]
    · rw [replaceFirst, Library.replaceFirst, if_neg h, if_neg h, ih]
      cases Library.replaceFirst (·.key = key) f rest with
      | error e => rfl
      | ok found => cases found <;> rfl

/-- **An `update` changes no id and no key.** -/
theorem update_advanced (keyText : Key → String) (env : Env) (key : String) (args : UpdateArgs)
    (hs : s.Holds l) :
    (update keyText env s key args).2.Advanced l (· = l.entries) := by
  rw [update]
  cases hc : checkUpdate env args with
  | error e => exact ⟨l, hs, .refl l, rfl⟩
  | ok given =>
    refine items_andThen hs fun scenes s' l' _ hready hentries => ?_
    cases hr : replaceFirst key (updatedScene env args given.1 given.2) scenes with
    | error e => exact hready.unchanged hentries
    | ok found =>
      cases found with
      | none => exact hready.unchanged hentries
      | some pair =>
        have hsound := replaceFirst_all (call_keeps_sound env (.update key args) given hc) hready.sound hr
        have hidents : pair.2.map Scene.ident = l'.entries := by
          rw [replaceFirst_eq] at hr
          rw [replaceFirst_map (fun _ _ h => updatedScene_ident h) hr, hready.entries]
        refine andThen_answer (writeItems_advanced hready hsound ?_ hentries (hidents.trans hentries))
        rw [hidents]
        exact l'.rewrite_sublist (List.Sublist.refl _)

theorem delete_advanced {key : String} (hs : s.Holds l) :
    (delete keyText env s key).2.Advanced l fun _ => True := by
  refine items_andThen hs fun scenes s' l' _ hready _ => ?_
  dsimp only
  split
  · exact hready.unchanged trivial
  · refine andThen_answer (writeItems_advanced hready
      (fun scene hmem => hready.sound scene (List.mem_filter.mp hmem).1) ?_ trivial trivial)
    refine l'.rewrite_sublist ?_
    rw [← hready.entries]
    exact List.filter_sublist.map _

/-- A `duplicate` that gets as far as the write of its `create`. -/
def DuplicateAppends (env : Env) (s : Service) (key : String) (newLabel : Option String) : Prop :=
  ∃ src s', get env.now s key = (.ok (some src), s') ∧ Appends env s' (duplicateArgs src newLabel)

theorem duplicate_advanced {key : String} {newLabel : Option String} (hs : s.Holds l)
    (hwritable : DuplicateAppends env s key newLabel → env.writable = true) :
    (duplicate keyText env s key newLabel).2.Advanced l fun _ => True := by
  obtain ⟨l', hs', hadvance, -⟩ := get_advanced (P := fun _ => True) hs env.now key trivial
  rw [duplicate]
  refine andThen_state ⟨l', hs', hadvance, trivial⟩ fun found hfound => ?_
  cases found with
  | none => exact ⟨l', hs', hadvance, trivial⟩
  | some src =>
    obtain ⟨l'', hs'', hadvance', -⟩ := create_advanced keyText hs' fun happends =>
      hwritable ⟨src, _, Prod.ext hfound rfl, happends⟩
    exact andThen_answer ⟨l'', hs'', hadvance.trans hadvance', trivial⟩

theorem rewriteScenes_idents {f : Int → Int} {now : String} {scenes scenes' : List Scene} {count : Nat}
    (h : rewriteScenes f now scenes = .ok (count, scenes')) :
    scenes'.map Scene.ident = scenes.map Scene.ident := by
  induction scenes generalizing scenes' count with
  | nil =>
    cases h
    rfl
  | cons scene rest ih =>
    unfold rewriteScenes at h
    dsimp only at h
    split at h
    · obtain ⟨actions, -, h⟩ := bind_ok.mp h
      obtain ⟨⟨count', rest'⟩, hr, h⟩ := bind_ok.mp h
      cases h
      rw [List.map_cons, List.map_cons, ih hr]
      rfl
    · obtain ⟨⟨count', rest'⟩, hr, h⟩ := bind_ok.mp h
      cases h
      rw [List.map_cons, List.map_cons, ih hr]

theorem rewriteReferences_advanced {f : Int → Int} (hs : s.Holds l)
    (hkeeps : ∀ scene : Scene, scene.Sound → ∀ actions,
      canonicalActions (actionsJson (scene.actions.map (Action.rename f))) = .ok actions →
      Scene.Sound {scene with actions, updated := .str env.now}) :
    (rewriteReferences f keyText env s).2.Advanced l fun _ => True := by
  refine items_andThen hs fun scenes s' l' _ hready _ => ?_
  cases hr : rewriteScenes f env.now scenes with
  | error e => exact hready.unchanged trivial
  | ok rewritten =>
    rw [andThen_ok]
    split
    · exact hready.unchanged trivial
    · refine andThen_answer (writeItems_advanced hready (rewriteScenes_all hkeeps hready.sound hr) ?_
        trivial trivial)
      rw [rewriteScenes_idents hr, hready.entries]
      exact l'.rewrite_sublist (List.Sublist.refl _)

/-- A bulk replacement advances the ledger; a refused one only the counter in use. -/
theorem replaceAll_advanced {entries : List Json} (hs : s.Holds l) :
    (replaceAll keyText env s entries).2.Advanced l fun _ => True := by
  refine items_andThen hs fun scenes s' l' _ hready _ => ?_
  obtain ⟨n, hn, hle⟩ := importEntries_counter slugify (importScene env.now) [] l'.ahead entries
  cases himport : importEntries slugify (importScene env.now) [] (some l'.ahead) entries with
  | mk answer nextId =>
    rw [himport] at hn
    obtain rfl : nextId = some n := hn
    have hclaimed : Service.Advanced l' (fun _ => True) {s' with nextId := some n} :=
      ⟨_, hready.claimed hle, l'.advance_recount _ _, trivial⟩
    rw [hready.nextId, himport]
    cases answer with
    | error e => exact hclaimed
    | ok imported =>
      show (writeImported keyText env {s' with nextId := some n} imported).2.Advanced l' _
      by_cases hwritable : env.writable = true
      · obtain ⟨n', hn', hclaims, hkeys, -⟩ :=
          importEntries_claims (fun h => (importScene_ok h).1) himport
        obtain rfl := Option.some.inj hn'
        have hrewrite := l'.rewrite_claims hkeys hclaims
        exact ⟨saved hrewrite, writeImported_holds hwritable rfl
          (importEntries_all (fun h => (importScene_ok h).2) himport) hrewrite, advance_saved hrewrite,
          trivial⟩
      · rw [writeImported, if_neg hwritable]
        exact hclaimed

theorem restart_advanced (hs : s.Holds l) : (Service.fresh s.file).Advanced l fun _ => True :=
  ⟨l, ⟨nofun, hs.filed⟩, .refl l, trivial⟩

end Calls

/-! ### Lifetimes -/

inductive Op where
  | call (call : Call)
  | replaceAll (entries : List Json)
  /-- A new process makes a new service over the file. -/
  | restart

structure Event where
  env : Env
  op : Op

/-- The store after an event. -/
def Service.step (keyText : Key → String) (s : Service) (e : Event) : Service :=
  match e.op with
  | .call call => after keyText e.env s call
  | .replaceAll entries => (replaceAll keyText e.env s entries).2
  | .restart => .fresh s.file

/-- A scene that is created finds the file writable. -/
def Event.Saves (s : Service) (e : Event) : Prop :=
  match e.op with
  | .call (.create args) => Appends e.env s args → e.env.writable = true
  | .call (.duplicate key newLabel) => DuplicateAppends e.env s key newLabel → e.env.writable = true
  | _ => True

/-- **One event advances the ledger.** -/
theorem step_advanced {keyText : Key → String} {s : Service} {l : Ledger String} (hs : s.Holds l)
    {e : Event} (hsaves : e.Saves s) : (s.step keyText e).Advanced l fun _ => True := by
  obtain ⟨env, op⟩ := e
  cases op with
  | restart => exact restart_advanced hs
  | replaceAll entries => exact replaceAll_advanced hs
  | call call =>
    cases call with
    | get key => exact get_advanced hs env.now key trivial
    | create args => exact create_advanced keyText hs hsaves
    | update key args =>
      obtain ⟨l', hs', hadvance, -⟩ := update_advanced keyText env key args hs
      exact ⟨l', hs', hadvance, trivial⟩
    | delete key => exact delete_advanced hs
    | duplicate key newLabel => exact duplicate_advanced hs hsaves
    | renumber deletedGid =>
      exact rewriteReferences_advanced hs (call_keeps_sound env (.renumber deletedGid))
    | remap mapping =>
      show (remapGroupIds keyText env s mapping).2.Advanced l _
      unfold remapGroupIds
      split
      · exact ⟨l, hs, .refl l, trivial⟩
      · exact rewriteReferences_advanced hs (call_keeps_sound env (.remap mapping))

/-- A file a store can start on: it is loaded, and no two of its scenes have one key. -/
def Startable (file : File) : Prop :=
  ∀ now, ∃ scenes nextId, load now file = .ok (scenes, nextId) ∧ (scenes.map (·.key)).Nodup

/-- A load gives distinct ids below the counter, and the same at any time. -/
theorem load_idents {now : String} {file : File} {scenes : List Scene} {nextId : Int}
    (h : load now file = .ok (scenes, nextId)) :
    ((scenes.map Scene.ident).map Prod.fst).Nodup ∧
    (∀ e ∈ scenes.map Scene.ident, e.1 < nextId) ∧
    ∀ {now' scenes' nextId'}, load now' file = .ok (scenes', nextId') →
      nextId' = nextId ∧ scenes'.map Scene.ident = scenes.map Scene.ident := by
  have hids : ∀ out : List Scene, out.map Scene.id = (out.map Scene.ident).map Prod.fst := fun out => by
    rw [List.map_map]
    rfl
  cases file with
  | doc data =>
    obtain ⟨-, hturn, rfl⟩ := load_doc h
    refine ⟨hturn.ids.1, fun e he => ?_, fun h' => ?_⟩
    · refine lt_counterOf hturn (List.mem_reverse.mpr ?_) ?_
      · rw [hids]
        exact List.mem_map_of_mem he
      · rw [hids]
        exact (List.reverse_perm _).subset
    · obtain ⟨-, hturn', rfl⟩ := load_doc h'
      have hidents := hturn.idents_eq hturn'
      rw [hids, hids, hidents]
      exact ⟨rfl, rfl⟩
  | undecodable => cases h
  | _ =>
    cases h
    exact ⟨List.nodup_nil, by simp, fun h' => by
      cases h'
      exact ⟨rfl, rfl⟩⟩

theorem startable_holds {file : File} (h : Startable file) : ∃ l, (Service.fresh file).Holds l := by
  obtain ⟨scenes, nextId, hload, hkeys⟩ := h ""
  obtain ⟨hids, hbelow, hsame⟩ := load_idents hload
  refine ⟨⟨scenes.map Scene.ident, nextId, nextId, hids, (keys_eq scenes).symm ▸ hkeys, hbelow,
    Int.le_refl _⟩, nofun, fun now => ?_⟩
  obtain ⟨scenes', nextId', hload', -⟩ := h now
  obtain ⟨rfl, hidents⟩ := hsame hload'
  exact ⟨scenes', hload', hidents⟩

/-- **As long as every scene that is created finds the file writable, ids and keys are kept
for life, and an update touches neither.** -/
theorem lifetime {keyText : Key → String} {file : File} (hfile : Startable file) {events : List Event}
    (hsaves : Along (Service.step keyText) (fun s e => e.Saves s) (.fresh file) events) (now : String) :
    Lifelong (view now) (Service.step keyText) (.fresh file) events ∧
    ∀ before env key args, events = before ++ [⟨env, .call (.update key args)⟩] →
      view now (events.foldl (Service.step keyText) (.fresh file)) =
        view now (before.foldl (Service.step keyText) (.fresh file)) := by
  obtain ⟨l, hl⟩ := startable_holds hfile
  have hstep : ∀ (s : Service) (e : Event) (l : Ledger String), s.Holds l → e.Saves s →
      ∃ l', (s.step keyText e).Holds l' ∧ l.Advance l' := fun s e l hs he =>
    let ⟨l', hs', hadvance, _⟩ := step_advanced hs he
    ⟨l', hs', hadvance⟩
  refine ⟨lifelong_of_ledger (R := Service.Holds) (fun s l hs => view_eq hs now) hstep hl hsaves, ?_⟩
  rintro before env key args rfl
  obtain ⟨m, hm, -⟩ := ledger_run hstep hl (along_append.mp hsaves).1
  obtain ⟨m', hm', -, hentries⟩ :=
    update_advanced keyText env key args hm
  rw [List.foldl_append, view_eq hm now]
  exact (view_eq hm' now).trans hentries

end RaceLink.Scenes
