import RaceLink.Scenes.Rewriting

/-! What a store shows after it has written its list: each scene as a load makes it of
the written one. A list of distinct ids comes back scene for scene, and the ids of a
cached list are always distinct. -/
namespace RaceLink.Scenes
open Python Library

section Reread
variable (keyText : Key → String) (now : String)

/-- The actions that a load makes of written ones. -/
def rereadActions (actions : List Action) : List Action :=
  (loadActions ((actionsJson actions).dump keyText)).toOption.getD []

/-- The scene that a load makes of a written one. -/
def Scene.reread (scene : Scene) : Scene :=
  {scene with
    created := (scene.created.dump keyText).orElse (.str now)
    updated := (scene.updated.dump keyText).orElse ((scene.created.dump keyText).orElse (.str now))
    actions := rereadActions keyText scene.actions}

theorem loadActions_reread {actions : List Action} (hcount : actions.length ≤ MAX_ACTIONS_PER_SCENE)
    (hstored : ∀ a ∈ actions, a.Stored) :
    loadActions ((actionsJson actions).dump keyText) = .ok (rereadActions keyText actions) := by
  obtain ⟨loaded, hloaded⟩ :
      ∃ loaded, loadActions ((actionsJson actions).dump keyText) = .ok loaded :=
    loadActions_stored_ok hcount hstored
  rw [rereadActions, hloaded]
  rfl

theorem rereadActions_canonical (actions : List Action) :
    CanonicalList (rereadActions keyText actions) := by
  unfold rereadActions
  cases h : loadActions ((actionsJson actions).dump keyText) with
  | error e => exact ⟨Nat.zero_le _, by simp [Except.toOption]⟩
  | ok loaded => exact loadActions_canonical h

/-- Sound scenes with distinct ids come back one for one. -/
theorem loadScenes_reread {scenes : List Scene} (index : Nat) (used : List Int)
    (h : ∀ scene ∈ scenes, scene.Sound) (hnodup : (scenes.map (·.id)).Nodup)
    (hused : ∀ scene ∈ scenes, scene.id ∉ used) :
    ∃ used', loadScenes now index used (scenes.map fun s => s.toJson.dump keyText) =
      .ok (scenes.map (Scene.reread keyText now), used') := by
  induction scenes generalizing index used with
  | nil => exact ⟨used, rfl⟩
  | cons scene rest ih =>
    obtain ⟨hfresh, hrest⟩ := List.nodup_cons.mp hnodup
    have hscene := h scene (List.mem_cons_self ..)
    have hactions := loadActions_reread keyText hscene.count hscene.actions
    have hid : freeId used used.length scene.id = scene.id :=
      freeId_of_not_mem (hused scene (List.mem_cons_self ..)) _
    obtain ⟨used', hload⟩ := ih (index + 1) (scene.id :: used)
      (fun s hs => h s (List.mem_cons_of_mem _ hs)) hrest fun s hs hmem => by
        rcases List.mem_cons.mp hmem with heq | hmem
        · exact hfresh (List.mem_map.mpr ⟨s, hs, heq⟩)
        · exact hused s (List.mem_cons_of_mem _ hs) hmem
    refine ⟨used', ?_⟩
    rw [List.map_cons, Scene.dump_toJson]
    simp [loadScenes, dict, Dict.get, loadId, Json.toInt, hactions, hid,
      canonicalNetworkScope_toJson hscene.scope, hload, coerceBool, Scene.reread]

/-- **A written list is read back scene for scene.** -/
theorem load_payload_reread {scenes : List Scene} (nextId : Option Int)
    (h : ∀ scene ∈ scenes, scene.Sound) (hnodup : (scenes.map (·.id)).Nodup) :
    ∃ n, load now (.doc ((payload nextId scenes).dump keyText)) =
      .ok (scenes.map (Scene.reread keyText now), n) := by
  obtain ⟨used, hload⟩ := loadScenes_reread keyText now 0 [] h hnodup (by simp)
  refine ⟨loadNextId (.int (nextId.getD (maxId (scenes.map (·.id)) + 1))) used, ?_⟩
  rw [payload, Json.dump_dict keyText (by simp)]
  simp [load, dict, Dict.get, Dict.getD, Json.dump, Json.dumpItems_eq_map, Json.orElse, Json.truthy,
    Json.toInt, SCHEMA_VERSION, Function.comp_def, hload]

variable {keyText now}

theorem Scene.Sound.reread {scene : Scene} (h : scene.Sound) : (scene.reread keyText now).Sound := by
  have hlist := rereadActions_canonical keyText scene.actions
  exact ⟨hlist.count, fun a ha => .inl (hlist.actions a ha), h.scope⟩

/-! ### The second time changes nothing -/

theorem orElse_dumped (x y : Json) : ((x.dump keyText).orElse (y.dump keyText)).dump keyText =
    (x.dump keyText).orElse (y.dump keyText) := by
  unfold Json.orElse
  split <;> exact Json.dump_dump keyText _

theorem orElse_orElse (x y : Json) : (x.orElse y).orElse y = x.orElse y := by
  unfold Json.orElse
  by_cases hx : x.truthy = true
  · rw [if_pos hx, if_pos hx]
  · rw [if_neg hx, ite_self]

theorem dumpParams_textual (keyText : Key → String) (params : Dict) :
    (Json.obj (dumpParams keyText params)).Textual := Json.dump_textual keyText (.obj params)

theorem Action.dumped_textual (keyText : Key → String) (a : Action) : (a.dumped keyText).Textual := by
  cases a with
  | effect e => exact dumpParams_textual keyText e.params
  | startblock target params => exact dumpParams_textual keyText params
  | sync => trivial
  | delay durationMs => trivial
  | offsetGroup target offset actions =>
    intro e he
    obtain ⟨e', -, rfl⟩ := List.mem_map.mp he
    exact dumpParams_textual keyText e'.params

theorem dumped_textual_eq {actions : List Action} (h : ∀ a ∈ actions, a.Textual) :
    actions.map (Action.dumped keyText) = actions :=
  map_eq_self.mpr fun a ha => (Action.dumped_eq_self keyText a).mpr (h a ha)

variable (keyText) in
/-- Canonical actions come back as dumped, others not at all. -/
theorem rereadActions_cases {actions : List Action} (hcount : actions.length ≤ MAX_ACTIONS_PER_SCENE)
    (hstored : ∀ a ∈ actions, a.Stored) :
    ((∀ a ∈ actions, a.Canonical) ∧ rereadActions keyText actions = actions.map (Action.dumped keyText)) ∨
    ((¬ ∀ a ∈ actions, a.Canonical) ∧ rereadActions keyText actions = []) := by
  obtain ⟨hgood, hbad⟩ := loadActions_stored keyText hcount hstored
  by_cases hc : ∀ a ∈ actions, a.Canonical
  · refine .inl ⟨hc, ?_⟩
    rw [rereadActions, hgood hc]
    rfl
  · refine .inr ⟨hc, ?_⟩
    rw [rereadActions, hbad hc]
    rfl

theorem rereadActions_textual {actions : List Action} (hcount : actions.length ≤ MAX_ACTIONS_PER_SCENE)
    (hstored : ∀ a ∈ actions, a.Stored) : ∀ a ∈ rereadActions keyText actions, a.Textual := by
  rcases rereadActions_cases keyText hcount hstored with ⟨-, heq⟩ | ⟨-, heq⟩
  · rw [heq]
    intro a ha
    obtain ⟨a', -, rfl⟩ := List.mem_map.mp ha
    exact Action.dumped_textual keyText a'
  · rw [heq]
    simp

/-- Canonical textual actions come back as they are. -/
theorem rereadActions_of_canonical {actions : List Action} (h : CanonicalList actions)
    (htextual : ∀ a ∈ actions, a.Textual) : rereadActions keyText actions = actions := by
  have hc : ¬ ¬ ∀ a ∈ actions, a.Canonical := not_not_intro h.actions
  rcases rereadActions_cases keyText h.count fun a ha => .inl (h.actions a ha)
    with ⟨-, heq⟩ | ⟨hbad, -⟩
  · rw [heq, dumped_textual_eq htextual]
  · exact absurd hbad hc

theorem rereadActions_idem {actions : List Action} (hcount : actions.length ≤ MAX_ACTIONS_PER_SCENE)
    (hstored : ∀ a ∈ actions, a.Stored) :
    rereadActions keyText (rereadActions keyText actions) = rereadActions keyText actions :=
  rereadActions_of_canonical (rereadActions_canonical keyText actions)
    (rereadActions_textual hcount hstored)

/-- **Written again, a scene that was read back is the same.** -/
theorem Scene.reread_reread {scene : Scene} (h : scene.Sound) :
    (scene.reread keyText now).reread keyText now = scene.reread keyText now := by
  have hnow : (Json.str now).dump keyText = .str now := rfl
  have hcreated : (((scene.created.dump keyText).orElse (.str now)).dump keyText).orElse (.str now) =
      (scene.created.dump keyText).orElse (.str now) := by
    rw [← hnow, orElse_dumped, orElse_orElse]
  have hupdated : ∀ c : Json, c.dump keyText = c →
      (((scene.updated.dump keyText).orElse c).dump keyText).orElse c =
        (scene.updated.dump keyText).orElse c := fun c hc => by
    rw [← hc, orElse_dumped, orElse_orElse]
  have hc : ((scene.created.dump keyText).orElse (.str now)).dump keyText =
      (scene.created.dump keyText).orElse (.str now) := by
    rw [← hnow, orElse_dumped]
  unfold Scene.reread
  dsimp only
  rw [rereadActions_idem h.count h.actions, hcreated, hupdated _ hc]

end Reread

/-! ### Ids -/

/-- The cached ids are distinct, and below the counter. -/
def Service.Counted (s : Service) : Prop :=
  ∀ scenes, s.cache = some scenes →
    (scenes.map (·.id)).Nodup ∧ ∃ n, s.nextId = some n ∧ ∀ scene ∈ scenes, scene.id < n

section Counted
variable {keyText : Key → String} {env : Env} {s : Service}

theorem items_counted (now : String) (hs : s.Counted) : (items now s).2.Counted := by
  obtain ⟨file, cache, counter⟩ := s
  cases cache with
  | some scenes => exact hs
  | none =>
    cases hload : load now file with
    | error e =>
      simp only [items, hload]
      exact hs
    | ok loaded =>
      obtain ⟨scenes, nextId⟩ := loaded
      obtain ⟨hids, hbelow, -⟩ := load_idents hload
      simp only [items, hload]
      intro scenes' h
      cases h
      refine ⟨?_, nextId, rfl, fun scene hscene => hbelow _ (List.mem_map_of_mem hscene)⟩
      rwa [List.map_map] at hids

theorem writeItems_counted (hs : s.Counted) (scenes : List Scene) :
    (writeItems keyText env s scenes).2.Counted := by
  unfold writeItems
  split
  · exact fun _ h => nomatch h
  · exact hs

theorem create_counted (hs : s.Counted) (args : CreateArgs) :
    (create keyText env s args).2.Counted := by
  refine andThen_state hs fun draft _ => ?_
  have hs' := items_counted env.now hs
  refine andThen_state hs' fun scenes hscenes => andThen_state hs' fun key _ => andThen_answer ?_
  refine writeItems_counted (fun scenes' h => ?_) _
  cases h
  obtain ⟨hnodup, n, hn, hbelow⟩ := hs' scenes (items_cache hscenes)
  have hid : (items env.now s).2.nextId.getD 0 = n := by
    rw [hn]
    rfl
  rw [hid]
  refine ⟨?_, n + 1, rfl, fun scene hscene => ?_⟩
  · rw [List.map_append, List.map_singleton]
    refine List.nodup_append.mpr ⟨hnodup, List.nodup_singleton _, fun a ha b hb => ?_⟩
    obtain ⟨scene, hscene, rfl⟩ := List.mem_map.mp ha
    rw [List.mem_singleton.mp hb]
    have := hbelow scene hscene
    show scene.id ≠ n
    omega
  · rcases List.mem_append.mp hscene with hscene | hscene
    · have := hbelow scene hscene
      omega
    · obtain rfl := List.mem_singleton.mp hscene
      show n < n + 1
      omega

theorem replaceAll_counted (hs : s.Counted) (entries : List Json) :
    (replaceAll keyText env s entries).2.Counted := by
  have hs' := items_counted env.now hs
  refine andThen_state hs' fun scenes hscenes => ?_
  obtain ⟨hnodup, n, hn, hbelow⟩ := hs' scenes (items_cache hscenes)
  obtain ⟨n', hn', hle⟩ := importEntries_counter slugify (importScene env.now) [] n entries
  rw [hn]
  cases himport : importEntries slugify (importScene env.now) [] (some n) entries with
  | mk answer nextId =>
    rw [himport] at hn'
    obtain rfl : nextId = some n' := hn'
    have hclaimed : Service.Counted {(items env.now s).2 with nextId := some n'} := fun scenes' h => by
      obtain rfl := Option.some.inj ((items_cache hscenes).symm.trans h)
      exact ⟨hnodup, n', rfl, fun scene hscene => Int.lt_of_lt_of_le (hbelow scene hscene) hle⟩
    refine andThen_state hclaimed fun imported _ => ?_
    unfold writeImported
    split
    · exact fun _ h => nomatch h
    · exact hclaimed

theorem rewriteReferences_counted (f : Int → Int) (hs : s.Counted) :
    (rewriteReferences f keyText env s).2.Counted := by
  have hs' := items_counted env.now hs
  refine andThen_state hs' fun scenes _ => andThen_state hs' fun rewritten _ => ?_
  dsimp only
  split
  · exact hs'
  · exact andThen_answer (writeItems_counted hs' _)

theorem step_counted (hs : s.Counted) (e : Event) : (s.step keyText e).Counted := by
  obtain ⟨env, op⟩ := e
  have hs' := items_counted env.now hs
  cases op with
  | restart => exact fun _ h => nomatch h
  | replaceAll entries => exact replaceAll_counted hs entries
  | call call =>
    cases call with
    | get key => exact andThen_answer hs'
    | create args => exact create_counted hs args
    | update key args =>
      refine andThen_state hs fun given _ => andThen_state hs' fun scenes _ =>
        andThen_state hs' fun found _ => ?_
      cases found with
      | none => exact hs'
      | some pair => exact andThen_answer (writeItems_counted hs' _)
    | delete key =>
      refine andThen_state hs' fun scenes _ => ?_
      dsimp only
      split
      · exact hs'
      · exact andThen_answer (writeItems_counted hs' _)
    | duplicate key newLabel =>
      have hget : (get env.now s key).2.Counted := andThen_answer hs'
      refine andThen_state hget fun found _ => ?_
      cases found with
      | none => exact hget
      | some src => exact andThen_answer (create_counted hget _)
    | renumber deletedGid => exact rewriteReferences_counted _ hs
    | remap mapping =>
      show (remapGroupIds keyText env s mapping).2.Counted
      unfold remapGroupIds
      split
      · exact hs
      · exact rewriteReferences_counted _ hs

/-- **In every state the ids in memory are distinct.** -/
theorem Lived.counted (h : Lived keyText s) : s.Counted :=
  h.invariant (I := Service.Counted) (fun _ _ hcache => nomatch hcache) fun _ e hs => step_counted hs e

end Counted

end RaceLink.Scenes
