import RaceLink.Library.Runs
import RaceLink.Scenes.Input

/-! Runs of the scene service: any calls in any order, each against its own clock,
writability of the file and known groups.

An invariant of the store is a pair (`StoreInvariant`): what is true of every
scene in memory, and what is true of the file, such that loading the file gives
such scenes and writing such scenes gives such a file. Each call then only has to
say what it does to a scene (`Call.Keeps`). -/
namespace RaceLink.Scenes
open Python Library

/-- The public calls. -/
inductive Call where
  | get (key : String)
  | create (args : CreateArgs)
  | update (key : String) (args : UpdateArgs)
  | delete (key : String)
  | duplicate (key : String) (newLabel : Option String)
  | renumber (deletedGid : Int)
  | remap (mapping : List (Int × Int))

section Calls
variable (keyText : Key → String)

/-- The service after a call. -/
def after (env : Env) (s : Service) : Call → Service
  | .get key => (get env.now s key).2
  | .create args => (create keyText env s args).2
  | .update key args => (update keyText env s key args).2
  | .delete key => (delete keyText env s key).2
  | .duplicate key newLabel => (duplicate keyText env s key newLabel).2
  | .renumber deletedGid => (renumberGroupReferences keyText env s deletedGid).2
  | .remap mapping => (remapGroupIds keyText env s mapping).2

structure StoreInvariant (P : Scene → Prop) (F : File → Prop) : Prop where
  load : ∀ {now file scenes nextId}, F file → load now file = .ok (scenes, nextId) →
    ∀ scene ∈ scenes, P scene
  write : ∀ {nextId scenes}, (∀ scene ∈ scenes, P scene) →
    F (.doc ((payload nextId scenes).dump keyText))

/-- The state of the service keeps an invariant of the store. -/
structure Service.All (P : Scene → Prop) (F : File → Prop) (s : Service) : Prop where
  cached : ∀ scenes, s.cache = some scenes → ∀ scene ∈ scenes, P scene
  file : F s.file

variable {keyText} {P : Scene → Prop} {F : File → Prop}

theorem items_all (hinv : StoreInvariant keyText P F) (now : String) {s : Service} (hs : s.All P F) :
    (items now s).2.All P F ∧ ∀ scenes, (items now s).1 = .ok scenes → ∀ scene ∈ scenes, P scene := by
  unfold items
  cases hc : s.cache with
  | some scenes =>
    refine ⟨hs, fun scenes' h => ?_⟩
    cases h
    exact hs.cached scenes hc
  | none =>
    cases hl : load now s.file with
    | error e => exact ⟨hs, fun scenes h => by cases h⟩
    | ok loaded =>
      obtain ⟨scenes, nextId⟩ := loaded
      have hall := hinv.load hs.file hl
      refine ⟨⟨fun scenes' h => ?_, hs.file⟩, fun scenes' h => ?_⟩ <;> cases h <;> exact hall

theorem writeItems_all (hinv : StoreInvariant keyText P F) (env : Env) {s : Service} (hs : s.All P F)
    {scenes : List Scene} (hscenes : ∀ scene ∈ scenes, P scene) :
    (writeItems keyText env s scenes).2.All P F := by
  unfold writeItems
  split
  · exact ⟨fun _ h => (by cases h), hinv.write hscenes⟩
  · exact hs

theorem create_all (hinv : StoreInvariant keyText P F) {env : Env} {s : Service} (hs : s.All P F)
    {args : CreateArgs}
    (hdraft : ∀ draft, draftScene env args = .ok draft → ∀ id key, P (draft.named id key)) :
    (create keyText env s args).2.All P F := by
  refine andThen_state hs fun draft hd => ?_
  obtain ⟨hs', hscenes⟩ := items_all hinv env.now hs
  refine andThen_state hs' fun scenes hi => andThen_state hs' fun key _ => ?_
  have hall : ∀ scene ∈ scenes ++ [draft.named ((items env.now s).2.nextId.getD 0) key], P scene := by
    intro scene hmem
    rcases List.mem_append.mp hmem with hmem | hmem
    · exact hscenes scenes hi scene hmem
    · rw [List.mem_singleton.mp hmem]
      exact hdraft draft hd _ _
  refine andThen_answer (writeItems_all hinv env ?_ hall)
  exact ⟨fun _ h => Option.some.inj h ▸ hall, hs'.file⟩

theorem replaceFirst_all {key : String} {f : Scene → Except PyError Scene}
    (hf : ∀ scene scene', P scene → f scene = .ok scene' → P scene')
    {scenes scenes' : List Scene} {scene : Scene} (hscenes : ∀ scene ∈ scenes, P scene)
    (h : replaceFirst key f scenes = .ok (some (scene, scenes'))) : ∀ scene ∈ scenes', P scene := by
  induction scenes generalizing scenes' with
  | nil => cases h
  | cons first rest ih =>
    have hrest : ∀ scene ∈ rest, P scene := fun s hs => hscenes s (List.mem_cons_of_mem _ hs)
    unfold replaceFirst at h
    split at h
    · obtain ⟨updated, hu, h⟩ := bind_ok.mp h
      cases h
      intro s hs
      rcases List.mem_cons.mp hs with rfl | hs
      · exact hf first _ (hscenes first (List.mem_cons_self ..)) hu
      · exact hrest s hs
    · obtain ⟨found, hfound, h⟩ := bind_ok.mp h
      cases found with
      | none => cases h
      | some pair =>
        cases h
        intro s hs
        rcases List.mem_cons.mp hs with rfl | hs
        · exact hscenes _ (List.mem_cons_self ..)
        · exact ih hrest hfound s hs

theorem update_all (hinv : StoreInvariant keyText P F) {env : Env} {s : Service} (hs : s.All P F)
    {key : String} {args : UpdateArgs}
    (hupdate : ∀ given, checkUpdate env args = .ok given → ∀ scene scene', P scene →
      updatedScene env args given.1 given.2 scene = .ok scene' → P scene') :
    (update keyText env s key args).2.All P F := by
  refine andThen_state hs fun given hc => ?_
  obtain ⟨hs', hscenes⟩ := items_all hinv env.now hs
  refine andThen_state hs' fun scenes hi => andThen_state hs' fun found hr => ?_
  cases found with
  | none => exact hs'
  | some pair =>
    have hall := replaceFirst_all (hupdate given hc) (hscenes scenes hi) hr
    exact andThen_answer (writeItems_all hinv env hs' hall)

theorem delete_all (hinv : StoreInvariant keyText P F) {env : Env} {s : Service} (hs : s.All P F)
    {key : String} : (delete keyText env s key).2.All P F := by
  obtain ⟨hs', hscenes⟩ := items_all hinv env.now hs
  refine andThen_state hs' fun scenes hi => ?_
  dsimp only
  split
  · exact hs'
  · have hall : ∀ scene ∈ scenes.filter (·.key != key), P scene := fun scene hmem =>
      hscenes scenes hi scene (List.mem_filter.mp hmem).1
    exact andThen_answer (writeItems_all hinv env hs' hall)

theorem get_all (hinv : StoreInvariant keyText P F) (now : String) {s : Service} (hs : s.All P F)
    (key : String) : (get now s key).2.All P F ∧
      ∀ scene, (get now s key).1 = .ok (some scene) → P scene := by
  obtain ⟨hs', hscenes⟩ := items_all hinv now hs
  refine ⟨andThen_answer hs', fun scene h => ?_⟩
  have hget : get now s key = (.ok (some scene), (get now s key).2) := Prod.ext h rfl
  unfold get at hget
  obtain ⟨scenes, s', hi, h⟩ := andThen_eq_ok.mp hget
  rw [hi] at hscenes
  simp only [Prod.mk.injEq, Except.ok.injEq] at h
  exact hscenes scenes rfl scene (List.mem_of_find?_eq_some h.1)

theorem duplicate_all (hinv : StoreInvariant keyText P F) {env : Env} {s : Service} (hs : s.All P F)
    {key : String} {newLabel : Option String}
    (hdraft : ∀ src, P src → ∀ draft, draftScene env (duplicateArgs src newLabel) = .ok draft →
      ∀ id key, P (draft.named id key)) : (duplicate keyText env s key newLabel).2.All P F := by
  obtain ⟨hs', hsrc⟩ := get_all hinv env.now hs key
  refine andThen_state hs' fun found hg => ?_
  cases found with
  | none => exact hs'
  | some src =>
    have hcreate := create_all hinv hs' (hdraft src (hsrc src hg))
    exact andThen_answer hcreate

theorem rewriteScenes_all {f : Int → Int} {now : String}
    (hrename : ∀ scene, P scene → ∀ actions,
      canonicalActions (actionsJson (scene.actions.map (Action.rename f))) = .ok actions →
      P {scene with actions, updated := .str now})
    {scenes scenes' : List Scene} {count : Nat} (hscenes : ∀ scene ∈ scenes, P scene)
    (h : rewriteScenes f now scenes = .ok (count, scenes')) : ∀ scene ∈ scenes', P scene := by
  induction scenes generalizing scenes' count with
  | nil =>
    cases h
    simp
  | cons scene rest ih =>
    have hrest : ∀ scene ∈ rest, P scene := fun s hs => hscenes s (List.mem_cons_of_mem _ hs)
    unfold rewriteScenes at h
    dsimp only at h
    split at h
    · obtain ⟨actions, hactions, h⟩ := bind_ok.mp h
      obtain ⟨⟨count', rest'⟩, hr, h⟩ := bind_ok.mp h
      cases h
      rw [(rewriteActions_eq scene.actions).1] at hactions
      intro s hs
      rcases List.mem_cons.mp hs with rfl | hs
      · exact hrename scene (hscenes scene (List.mem_cons_self ..)) actions hactions
      · exact ih hrest hr s hs
    · obtain ⟨⟨count', rest'⟩, hr, h⟩ := bind_ok.mp h
      cases h
      intro s hs
      rcases List.mem_cons.mp hs with rfl | hs
      · exact hscenes _ (List.mem_cons_self ..)
      · exact ih hrest hr s hs

theorem rewriteReferences_all (hinv : StoreInvariant keyText P F) {f : Int → Int} {env : Env}
    {s : Service} (hs : s.All P F)
    (hrename : ∀ scene, P scene → ∀ actions,
      canonicalActions (actionsJson (scene.actions.map (Action.rename f))) = .ok actions →
      P {scene with actions, updated := .str env.now}) :
    (rewriteReferences f keyText env s).2.All P F := by
  obtain ⟨hs', hscenes⟩ := items_all hinv env.now hs
  refine andThen_state hs' fun scenes hi => andThen_state hs' fun rewritten hr => ?_
  dsimp only
  split
  · exact hs'
  · have hall := rewriteScenes_all hrename (hscenes scenes hi) hr
    exact andThen_answer (writeItems_all hinv env hs' hall)

/-- What a call has to keep true of the scenes it makes. -/
def Call.Keeps (P : Scene → Prop) (env : Env) : Call → Prop
  | .get _ | .delete _ => True
  | .create args => ∀ draft, draftScene env args = .ok draft → ∀ id key, P (draft.named id key)
  | .update _ args => ∀ given, checkUpdate env args = .ok given →
      ∀ scene scene', P scene → updatedScene env args given.1 given.2 scene = .ok scene' → P scene'
  | .duplicate _ newLabel => ∀ src, P src → ∀ draft,
      draftScene env (duplicateArgs src newLabel) = .ok draft → ∀ id key, P (draft.named id key)
  | .renumber deletedGid => ∀ scene, P scene → ∀ actions,
      canonicalActions (actionsJson (scene.actions.map (Action.rename (shiftGroupValue deletedGid)))) =
        .ok actions → P {scene with actions, updated := .str env.now}
  | .remap mapping => ∀ scene, P scene → ∀ actions,
      canonicalActions (actionsJson (scene.actions.map (Action.rename (mapGroupValue mapping)))) =
        .ok actions → P {scene with actions, updated := .str env.now}

/-- **One call keeps an invariant of the store**, if it keeps it of the scenes it makes. -/
theorem after_all (hinv : StoreInvariant keyText P F) {env : Env} {s : Service} (hs : s.All P F)
    {call : Call} (hcall : call.Keeps P env) : (after keyText env s call).All P F := by
  cases call with
  | get key => exact (get_all hinv env.now hs key).1
  | create args => exact create_all hinv hs hcall
  | update key args => exact update_all hinv hs hcall
  | delete key => exact delete_all hinv hs
  | duplicate key newLabel => exact duplicate_all hinv hs hcall
  | renumber deletedGid => exact rewriteReferences_all hinv hs hcall
  | remap mapping =>
    show (remapGroupIds keyText env s mapping).2.All P F
    unfold remapGroupIds
    split
    · exact hs
    · exact rewriteReferences_all hinv hs hcall

end Calls

/-! ### Every reachable store is sound -/

/-- Any call, with any arguments, at any time. -/
def Step (keyText : Key → String) (s t : Service) : Prop := ∃ env call, t = after keyText env s call

/-- The states of a service that starts on any file. -/
def ReachableService (keyText : Key → String) : Service → Prop :=
  Reachable (fun s => ∃ file, s = .fresh file) (Step keyText)

theorem applyBroadcastCollapse_eq (known : Option (List Int)) (actions : List Action) :
    applyBroadcastCollapse known actions = actions.map (collapseAction (known.getD [])) := by
  cases known with
  | none => simp [applyBroadcastCollapse, funext collapseAction_nil]
  | some known => exact collapseActionsToBroadcast_eq known actions

/-- The actions a save stores. -/
theorem saved_actions_stored {raw : Json} {actions : List Action}
    (h : canonicalActions raw = .ok actions) (known : Option (List Int)) :
    (applyBroadcastCollapse known actions).length ≤ MAX_ACTIONS_PER_SCENE ∧
      ∀ a ∈ applyBroadcastCollapse known actions, a.Stored := by
  have hlist := canonicalActions_canonical h
  rw [applyBroadcastCollapse_eq]
  refine ⟨by simpa using hlist.count, fun a ha => ?_⟩
  obtain ⟨a', ha', rfl⟩ := List.mem_map.mp ha
  exact collapseAction_stored (hlist.actions a' ha')

theorem sound_invariant (keyText : Key → String) :
    StoreInvariant keyText Scene.Sound fun _ => True where
  load := fun _ h => load_sound h
  write := fun _ => trivial

/-- What `create` settles about the actions and the scope. -/
theorem draftScene_ok {env : Env} {args : CreateArgs} {draft : Scene}
    (h : draftScene env args = .ok draft) :
    ∃ actions, canonicalActions args.actions = .ok actions ∧
      draft.actions = applyBroadcastCollapse env.known actions ∧ draft.networkScope.Canonical := by
  obtain ⟨-, h⟩ := guard_ok.mp h
  obtain ⟨actions, hactions, h⟩ := bind_ok.mp h
  obtain ⟨scope, hscope, h⟩ := bind_ok.mp h
  cases h
  exact ⟨actions, hactions, rfl, canonicalNetworkScope_ok hscope⟩

/-- What `update` settles about the actions and the scope, each if it was given. -/
theorem checkUpdate_ok {env : Env} {args : UpdateArgs}
    {given : Option (List Action) × Option NetworkScope} (h : checkUpdate env args = .ok given) :
    (args.actions = .null ∧ given.1 = none ∨
      ∃ validated, canonicalActions args.actions = .ok validated ∧
        given.1 = some (applyBroadcastCollapse env.known validated)) ∧
    (∀ s, given.2 = some s → s.Canonical) := by
  unfold checkUpdate at h
  obtain ⟨actions', hactions, h⟩ := bind_ok.mp h
  obtain ⟨scope', hscope, h⟩ := bind_ok.mp h
  cases h
  constructor
  · unfold givenActions at hactions
    split at hactions
    · next hnull =>
      cases hactions
      exact .inl ⟨hnull, rfl⟩
    · obtain ⟨validated, hvalidated, hactions⟩ := bind_ok.mp hactions
      cases hactions
      exact .inr ⟨validated, hvalidated, rfl⟩
  · unfold givenScope at hscope
    split at hscope
    · cases hscope
      simp
    · obtain ⟨s, hs, hscope⟩ := bind_ok.mp hscope
      cases hscope
      intro s' hs'
      cases hs'
      exact canonicalNetworkScope_ok hs

theorem updatedScene_ok {env : Env} {args : UpdateArgs} {actions : Option (List Action)}
    {scope : Option NetworkScope} {scene scene' : Scene}
    (h : updatedScene env args actions scope scene = .ok scene') :
    scene'.key = scene.key ∧ scene'.actions = actions.getD scene.actions ∧
      scene'.networkScope = scope.getD scene.networkScope := by
  unfold updatedScene at h
  obtain ⟨label, -, h⟩ := bind_ok.mp h
  cases h
  exact ⟨rfl, rfl, rfl⟩

/-- The scope of an updated scene is the given one, or stays. -/
theorem updatedScene_scope {env : Env} {args : UpdateArgs} {given : Option (List Action) × Option NetworkScope}
    {scene scene' : Scene} (hcheck : checkUpdate env args = .ok given)
    (h : updatedScene env args given.1 given.2 scene = .ok scene') (hscope : scene.networkScope.Canonical) :
    scene'.networkScope.Canonical := by
  rw [(updatedScene_ok h).2.2]
  cases hgiven : given.2 with
  | none => exact hscope
  | some s => exact (checkUpdate_ok hcheck).2 s hgiven

theorem call_keeps_sound (env : Env) (call : Call) : call.Keeps Scene.Sound env := by
  have hdraft : ∀ args draft, draftScene env args = .ok draft → ∀ id key, (draft.named id key).Sound := by
    intro args draft h id key
    obtain ⟨actions, hactions, heq, hscope⟩ := draftScene_ok h
    obtain ⟨hcount, hstored⟩ := saved_actions_stored hactions env.known
    refine ⟨?_, ?_, hscope⟩
    · show draft.actions.length ≤ _
      rwa [heq]
    · show ∀ a ∈ draft.actions, _
      rwa [heq]
  have hrename : ∀ scene : Scene, scene.Sound → ∀ raw actions, canonicalActions raw = .ok actions →
      Scene.Sound {scene with actions, updated := .str env.now} := by
    intro scene hscene raw actions h
    have hlist := canonicalActions_canonical h
    exact ⟨hlist.count, fun a ha => .inl (hlist.actions a ha), hscene.scope⟩
  cases call with
  | get key => trivial
  | delete key => trivial
  | create args => exact hdraft args
  | duplicate key newLabel => exact fun src _ => hdraft _
  | renumber deletedGid => exact fun scene hscene actions h => hrename scene hscene _ actions h
  | remap mapping => exact fun scene hscene actions h => hrename scene hscene _ actions h
  | update key args =>
    intro given hcheck scene scene' hscene h
    have heq := (updatedScene_ok h).2.1
    have hscope := updatedScene_scope hcheck h hscene.scope
    rcases (checkUpdate_ok hcheck).1 with ⟨-, hnone⟩ | ⟨validated, hvalidated, hsome⟩
    · rw [hnone] at heq
      exact ⟨heq ▸ hscene.count, heq ▸ hscene.actions, hscope⟩
    · rw [hsome] at heq
      obtain ⟨hcount, hstored⟩ := saved_actions_stored hvalidated env.known
      exact ⟨heq ▸ hcount, heq ▸ hstored, hscope⟩

/-- **In every reachable state the scenes in memory are sound.** -/
theorem reachable_sound {keyText : Key → String} {s : Service} (h : ReachableService keyText s) :
    s.All Scene.Sound fun _ => True := by
  refine Reachable.invariant (fun s hs => ?_) (fun s t hs hst => ?_) h
  · obtain ⟨file, rfl⟩ := hs
    exact ⟨fun _ h => (by cases h), trivial⟩
  · obtain ⟨env, call, rfl⟩ := hst
    exact after_all (sound_invariant keyText) hs (call_keeps_sound env call)

end RaceLink.Scenes
