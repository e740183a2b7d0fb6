import RaceLink.Scenes.Calls

/-! Renumbering after any run of the scene service that starts on an empty store and
has no getter of known groups.

The validator lets an explicit table list an id twice. Such a table loses a row
when its groups are renamed, its container loses none, and the re-validation
raises in the middle of the group delete. A run in which no request carries such
a table keeps every stored table distinct, and then renumbering always ends. -/
namespace RaceLink.Scenes
open Python Library

/-- A stored scene of a store that no request gave a table with a repeated id. -/
structure Scene.Distinct (scene : Scene) : Prop where
  list : CanonicalList scene.actions
  distinct : ∀ a ∈ scene.actions, a.Distinct
  scope : scene.networkScope.Canonical

theorem Scene.Distinct.sound {scene : Scene} (h : scene.Distinct) : scene.Sound :=
  ⟨h.list.count, fun a ha => .inl (h.list.actions a ha), h.scope⟩

section Runs
variable (keyText : Key → String)

/-- The file is not there, or was written by the service. -/
def DistinctFile (file : File) : Prop :=
  file = .missing ∨ ∃ nextId scenes, file = .doc ((payload nextId scenes).dump keyText) ∧
    ∀ scene ∈ scenes, scene.Distinct

/-- The calls of a run in which no request that passes its checks carries a table with a
repeated id; renamings stay in the range of group ids. -/
def Call.Clean (env : Env) : Call → Prop
  | .create args => ∀ draft, draftScene env args = .ok draft →
      ∀ rawActions, args.actions = .arr rawActions → ∀ raw ∈ rawActions, repeatsTableId raw = false
  | .update _ args => ∀ given, checkUpdate env args = .ok given →
      ∀ rawActions, args.actions = .arr rawActions → ∀ raw ∈ rawActions, repeatsTableId raw = false
  | .renumber deletedGid => 1 ≤ deletedGid
  | .remap mapping => ∀ e ∈ mapping, 0 ≤ e.2 ∧ e.2 ≤ GROUP_ID_MAX
  | _ => True

/-- A call of such a run; there is no getter of known groups. -/
def CleanStep (s t : Service) : Prop :=
  ∃ env call, env.known = none ∧ call.Clean env ∧ t = after keyText env s call

/-- What renaming by `f` has to make of a scene. -/
structure Scene.Renumbered (f : Int → Int) (old new : Scene) : Prop where
  key : new.key = old.key
  fixed : canonicalActions (actionsJson new.actions) = .ok new.actions
  references : List.Forall₂ (Action.Renamed f) old.actions new.actions
  within : ∀ target offset actions, .offsetGroup target offset actions ∈ new.actions →
    ∀ e ∈ actions, e.target.Within target.groupIds
  table : ∀ ids values actions, .offsetGroup (.groups ids) (.explicit values) actions ∈ new.actions →
    values.map (·.id) = ids

/-- The outcome of a call that renames the groups of every scene by `f`: it does not
raise, unless the file cannot be written, and the scenes that the service holds
afterwards (in memory, or in the file it wrote) are the renumbered ones. -/
def Rewrites (f : Int → Int) (env : Env) (s : Service) (outcome : Except PyError Nat × Service) :
    Prop :=
  ∃ old new, (items env.now s).1 = .ok old ∧ List.Forall₂ (Scene.Renumbered f) old new ∧
    ((outcome.1 = .ok 0 ∧ new = old ∧ (items env.now outcome.2).1 = .ok old) ∨
      (∃ count nextId, outcome.1 = .ok count ∧ outcome.2.cache = none ∧
        outcome.2.file = .doc ((payload nextId new).dump keyText)) ∨
      (outcome.1 = .error .osError ∧ env.writable = false))

theorem canonicalList_distinct_dumped {actions : List Action} (hlist : CanonicalList actions)
    (hdistinct : ∀ a ∈ actions, a.Distinct) :
    CanonicalList (actions.map (Action.dumped keyText)) ∧
      ∀ a ∈ actions.map (Action.dumped keyText), a.Distinct := by
  refine ⟨⟨by simpa using hlist.count, fun a ha => ?_⟩, fun a ha => ?_⟩ <;>
    obtain ⟨a', ha', rfl⟩ := List.mem_map.mp ha
  · exact (hlist.actions a' ha').dumped keyText
  · have h := hdistinct a' ha'
    cases a' with
    | offsetGroup target offset actions => cases offset <;> exact h
    | _ => trivial

variable {keyText}

theorem Scene.Distinct.reloaded {scene scene' : Scene} (h : scene.Distinct)
    (hr : scene.Reloaded keyText scene') : scene'.Distinct := by
  obtain ⟨hgood, -⟩ := loadActions_stored keyText h.list.count fun a ha => .inl (h.list.actions a ha)
  have hactions := Except.ok.inj (hr.actions.symm.trans (hgood h.list.actions))
  obtain ⟨hlist, hdistinct⟩ := canonicalList_distinct_dumped keyText h.list h.distinct
  exact ⟨hactions ▸ hlist, hactions ▸ hdistinct, hr.scope ▸ h.scope⟩

/-- A file of the run can be loaded, and holds scenes with distinct tables. -/
theorem DistinctFile.load {file : File} (h : DistinctFile keyText file) (now : String) :
    ∃ scenes nextId, load now file = .ok (scenes, nextId) ∧ ∀ scene ∈ scenes, scene.Distinct := by
  rcases h with rfl | ⟨nextId, scenes, rfl, hscenes⟩
  · exact ⟨[], 0, rfl, by simp⟩
  · obtain ⟨scenes', nextId', hload, hall⟩ :=
      load_payload keyText now nextId fun s hs => (hscenes s hs).sound
    refine ⟨scenes', nextId', hload, fun scene' hs' => ?_⟩
    obtain ⟨scene, hs, hr⟩ := exists_of_forall₂_right hall hs'
    exact (hscenes scene hs).reloaded hr

theorem distinct_invariant : StoreInvariant keyText Scene.Distinct (DistinctFile keyText) where
  load := fun {now file scenes nextId} hfile h => by
    obtain ⟨scenes', nextId', hload, hall⟩ := hfile.load now
    cases hload.symm.trans h
    exact hall
  write := fun {nextId scenes} hall => .inr ⟨nextId, scenes, rfl, hall⟩

/-- Validated actions of requests without repeated ids are distinct. -/
theorem validated_distinct {rawActions : List Json} {actions : List Action}
    (h : canonicalActions (.arr rawActions) = .ok actions)
    (hclean : ∀ raw ∈ rawActions, repeatsTableId raw = false) : ∀ a ∈ actions, a.Distinct := by
  intro a ha
  obtain ⟨raw, hraw, hok⟩ := exists_of_forall₂_right (mapM_ok.mp (guard_ok.mp h).2) ha
  exact (canonicalAction_input hok).2.1.mpr (hclean raw hraw)

theorem validated_distinct' {raw : Json} {actions : List Action}
    (h : canonicalActions raw = .ok actions)
    (hclean : ∀ rawActions, raw = .arr rawActions → ∀ r ∈ rawActions, repeatsTableId r = false) :
    ∀ a ∈ actions, a.Distinct := by
  cases raw with
  | arr rawActions => exact validated_distinct h (hclean rawActions rfl)
  | null =>
    cases h
    simp
  | _ => cases h

/-- Renaming a distinct list and validating it again ends well, with a distinct list. -/
theorem renamed_distinct {f : Int → Int} (hf : InRange f) {actions : List Action}
    (hlist : CanonicalList actions) (hdistinct : ∀ a ∈ actions, a.Distinct) :
    canonicalActions (actionsJson (actions.map (Action.rename f))) =
        .ok (actions.map fun a => (a.rename f).normal) ∧
      CanonicalList (actions.map fun a => (a.rename f).normal) ∧
      ∀ a ∈ actions.map (fun a => (a.rename f).normal), a.Distinct := by
  have hvalid : ∀ a ∈ actions.map (Action.rename f), a.Valid := by
    intro a ha
    obtain ⟨a', ha', rfl⟩ := List.mem_map.mp ha
    exact (hlist.actions a' ha').1.rename (hdistinct a' ha') hf
  have hok := canonicalActions_valid (by simpa using hlist.count) hvalid
  rw [List.map_map] at hok
  refine ⟨hok, canonicalActions_canonical hok, fun a ha => ?_⟩
  obtain ⟨a', -, rfl⟩ := List.mem_map.mp ha
  exact (Action.Distinct.rename a').normal

theorem call_keeps_distinct {env : Env} {call : Call} (hknown : env.known = none)
    (hclean : call.Clean env) : call.Keeps Scene.Distinct env := by
  have hdraft : ∀ args draft, draftScene env args = .ok draft →
      (∀ actions, canonicalActions args.actions = .ok actions → ∀ a ∈ actions, a.Distinct) →
      ∀ id key, (draft.named id key).Distinct := by
    intro args draft h hdistinct id key
    obtain ⟨actions, hactions, heq, hscope⟩ := draftScene_ok h
    rw [hknown] at heq
    have heq : (draft.named id key).actions = actions := heq
    exact ⟨heq ▸ canonicalActions_canonical hactions, heq ▸ hdistinct actions hactions, hscope⟩
  have hrename : ∀ f, InRange f → ∀ scene : Scene, scene.Distinct → ∀ actions,
      canonicalActions (actionsJson (scene.actions.map (Action.rename f))) = .ok actions →
      Scene.Distinct {scene with actions, updated := .str env.now} := by
    intro f hf scene hscene actions h
    obtain ⟨hok, hlist, hdistinct⟩ := renamed_distinct hf hscene.list hscene.distinct
    cases hok.symm.trans h
    exact ⟨hlist, hdistinct, hscene.scope⟩
  cases call with
  | get key => trivial
  | delete key => trivial
  | create args => exact fun draft h => hdraft args draft h fun _ hv => validated_distinct' hv (hclean draft h)
  | duplicate key newLabel =>
    intro src hsrc draft h
    refine hdraft _ draft h fun actions hv => ?_
    cases (canonicalActions_toJson hsrc.list).symm.trans hv
    exact hsrc.distinct
  | renumber deletedGid => exact hrename _ (shiftGroupValue_inRange hclean)
  | remap mapping => exact hrename _ (mapGroupValue_inRange hclean)
  | update key args =>
    intro given hcheck scene scene' hscene h
    have heq := (updatedScene_ok h).2.1
    have hscope := updatedScene_scope hcheck h hscene.scope
    rcases (checkUpdate_ok hcheck).1 with ⟨-, hnone⟩ | ⟨validated, hvalidated, hsome⟩
    · rw [hnone] at heq
      exact ⟨heq ▸ hscene.list, heq ▸ hscene.distinct, hscope⟩
    · rw [hsome, hknown] at heq
      have heq : scene'.actions = validated := heq
      exact ⟨heq ▸ canonicalActions_canonical hvalidated,
        heq ▸ validated_distinct' hvalidated (hclean given hcheck), hscope⟩

/-- **In a clean run every stored table is distinct.** -/
theorem reachable_distinct {s : Service}
    (h : Reachable (fun s => s = .fresh .missing) (CleanStep keyText) s) :
    s.All Scene.Distinct (DistinctFile keyText) := by
  refine Reachable.invariant (fun s hs => ?_) (fun s t hs hst => ?_) h
  · subst hs
    exact ⟨fun _ h => (by cases h), .inl rfl⟩
  · obtain ⟨env, call, hknown, hclean, rfl⟩ := hst
    exact after_all distinct_invariant hs (call_keeps_distinct hknown hclean)

/-! ### Renumbering such a store -/

theorem renumbered_of_normal {f : Int → Int} {scene : Scene} {actions : List Action}
    (hlist : CanonicalList actions) (hdistinct : ∀ a ∈ actions, a.Distinct)
    (heq : actions = scene.actions.map fun a => (a.rename f).normal) (updated : Json) :
    scene.Renumbered f {scene with actions, updated} where
  key := rfl
  fixed := canonicalActions_toJson hlist
  references := by
    show List.Forall₂ _ scene.actions actions
    rw [heq, List.forall₂_map_right_iff, List.forall₂_same]
    exact fun a _ => Action.renamed_normal a
  within := fun target offset children hmem e he => ((hlist.actions _ hmem).1.children e he).within
  table := fun ids values children hmem => table_ids_eq (hlist.actions _ hmem) (hdistinct _ hmem)

/-- The loop over the scenes ends, each scene renumbered; a count of zero leaves the list. -/
theorem rewriteScenes_total {f : Int → Int} (hf : InRange f) (now : String) {scenes : List Scene}
    (hscenes : ∀ scene ∈ scenes, scene.Distinct) :
    ∃ count scenes', rewriteScenes f now scenes = .ok (count, scenes') ∧
      List.Forall₂ (Scene.Renumbered f) scenes scenes' ∧ (count = 0 → scenes' = scenes) := by
  induction scenes with
  | nil => exact ⟨0, [], rfl, .nil, fun _ => rfl⟩
  | cons scene rest ih =>
    obtain ⟨count, rest', hrest, hall, hzero⟩ := ih fun s hs => hscenes s (List.mem_cons_of_mem _ hs)
    have hscene := hscenes scene (List.mem_cons_self ..)
    obtain ⟨hok, hlist, hdistinct⟩ := renamed_distinct hf hscene.list hscene.distinct
    obtain ⟨hvalue, hsame⟩ := rewriteActions_eq (f := f) scene.actions
    cases hchanged : (rewriteActions f scene.actions).2 with
    | true =>
      refine ⟨count + 1, _, ?_, .cons (renumbered_of_normal hlist hdistinct rfl (.str now)) hall,
        fun h => absurd h (Nat.succ_ne_zero _)⟩
      simp only [rewriteScenes, hchanged, hvalue, hok, hrest, if_true, ok_bind]
    | false =>
      have hid : scene.actions.map (fun a => (a.rename f).normal) = scene.actions := by
        refine map_eq_self.mpr fun a ha => ?_
        rw [map_eq_self.mp (hsame hchanged) a ha, (hscene.list.actions a ha).2]
      refine ⟨count, scene :: rest', ?_,
        .cons (renumbered_of_normal hscene.list hscene.distinct hid.symm scene.updated) hall,
        fun h => by rw [hzero h]⟩
      simp [rewriteScenes, hchanged, hrest]

/-- What a store of distinct scenes has in memory after `_items`. -/
theorem items_distinct (now : String) {s : Service}
    (hs : s.All Scene.Distinct (DistinctFile keyText)) :
    ∃ scenes s', items now s = (.ok scenes, s') ∧ s'.cache = some scenes ∧
      ∀ scene ∈ scenes, scene.Distinct := by
  unfold items
  cases hc : s.cache with
  | some scenes => exact ⟨scenes, s, rfl, hc, hs.cached scenes hc⟩
  | none =>
    obtain ⟨scenes, nextId, hload, hall⟩ := hs.file.load now
    exact ⟨scenes, {s with cache := some scenes, nextId := some nextId}, by rw [hload], rfl, hall⟩

theorem items_of_cache {now : String} {s : Service} {scenes : List Scene} (h : s.cache = some scenes) :
    (items now s).1 = .ok scenes := by
  rw [items, h]

theorem rewriteReferences_rewrites {f : Int → Int} (hf : InRange f) (env : Env) {s : Service}
    (hs : s.All Scene.Distinct (DistinctFile keyText)) :
    Rewrites keyText f env s (rewriteReferences f keyText env s) := by
  obtain ⟨old, s', hitems, hcache, hdistinct⟩ := items_distinct env.now hs
  obtain ⟨count, new, hnew, hall, hzero⟩ := rewriteScenes_total hf env.now hdistinct
  refine ⟨old, new, by rw [hitems], hall, ?_⟩
  rw [rewriteReferences, hitems, andThen_ok, hnew, andThen_ok]
  by_cases h0 : count = 0
  · rw [if_pos h0]
    exact .inl ⟨rfl, hzero h0, items_of_cache hcache⟩
  · rw [if_neg h0, writeItems]
    by_cases hw : env.writable = true
    · rw [if_pos hw, andThen_ok]
      exact .inr (.inl ⟨count, s'.nextId, rfl, rfl, rfl⟩)
    · rw [if_neg hw, andThen_error]
      exact .inr (.inr ⟨rfl, by simpa using hw⟩)

/-- An empty mapping: the call returns before it reads anything. -/
theorem remap_nil_rewrites (env : Env) {s : Service}
    (hs : s.All Scene.Distinct (DistinctFile keyText)) :
    Rewrites keyText (mapGroupValue []) env s (remapGroupIds keyText env s []) := by
  obtain ⟨old, s', hitems, -, hdistinct⟩ := items_distinct env.now hs
  refine ⟨old, old, by rw [hitems], List.forall₂_same.mpr fun scene hscene => ?_,
    .inl ⟨rfl, rfl, show (items env.now s).1 = _ by rw [hitems]⟩⟩
  have h := hdistinct scene hscene
  have hnil : ∀ g, mapGroupValue [] g = g := fun _ => rfl
  have hid : scene.actions = scene.actions.map fun a => (a.rename (mapGroupValue [])).normal := by
    refine (map_eq_self.mpr fun a ha => ?_).symm
    obtain ⟨hvalid, hnormal⟩ := h.list.actions a ha
    rw [Action.rename_id hnil hvalid (h.distinct a ha), hnormal]
  exact renumbered_of_normal h.list h.distinct hid scene.updated

/-- **After any clean run, renumbering for a deleted group and remapping by any mapping
within the group ids end well and leave every scene renumbered.** -/
theorem renumber_total {s : Service}
    (h : Reachable (fun s => s = .fresh .missing) (CleanStep keyText) s) (env : Env) :
    (∀ deletedGid, 1 ≤ deletedGid → deletedGid ≤ GROUP_ID_MAX →
      Rewrites keyText (shiftGroupValue deletedGid) env s
        (renumberGroupReferences keyText env s deletedGid)) ∧
    (∀ mapping : List (Int × Int), (∀ e ∈ mapping, 0 ≤ e.2 ∧ e.2 ≤ GROUP_ID_MAX) →
      Rewrites keyText (mapGroupValue mapping) env s (remapGroupIds keyText env s mapping)) := by
  have hs := reachable_distinct h
  refine ⟨fun deletedGid hlo _ => ?_, fun mapping hrange => ?_⟩
  · exact rewriteReferences_rewrites (shiftGroupValue_inRange hlo) env hs
  · by_cases hm : mapping = []
    · subst hm
      exact remap_nil_rewrites env hs
    · rw [remapGroupIds, if_neg hm]
      exact rewriteReferences_rewrites (mapGroupValue_inRange hrange) env hs

end Runs

/-! ### Two runs -/

/-- A scene over groups 1 and 2 whose table has two rows, for the given ids. -/
def createRows (first second : Int) : Except PyError Scene × Service :=
  create (fun _ => "") ⟨"2026-01-01T00:00:00Z", true, none⟩ (.fresh .missing)
    {label := "A", actions := .arr [
      dict [("kind", .str "offset_group"),
        ("target", dict [("kind", .str "groups"), ("value", .arr [.int 1, .int 2])]),
        ("offset", dict [("mode", .str "explicit"),
          ("values", .arr [dict [("id", .int first), ("offset_ms", .int 10)],
            dict [("id", .int second), ("offset_ms", .int 20)]])]),
        ("actions", .arr [])]]}

/-- Two rows for group 1 are accepted, and the next group delete raises. -/
theorem renumber_repeated_id_raises :
    ∃ scene s', createRows 1 1 = (.ok scene, s') ∧
      (renumberGroupReferences (fun _ => "") ⟨"later", true, none⟩ s' 1).1 =
        .error canonicalOffsetBlock.valuesError :=
  ⟨_, _, rfl, rfl⟩

/-- A row for each group, and the same delete renumbers the scene. -/
theorem renumber_distinct_rows :
    ∃ scene s', createRows 1 2 = (.ok scene, s') ∧
      Rewrites (fun _ => "") (shiftGroupValue 1) ⟨"later", true, none⟩ s'
        (renumberGroupReferences (fun _ => "") ⟨"later", true, none⟩ s' 1) := by
  obtain ⟨scene, s', h⟩ : ∃ scene s', createRows 1 2 = (.ok scene, s') := ⟨_, _, rfl⟩
  refine ⟨scene, s', h, (renumber_total (.next (.start rfl) ⟨_, .create _, rfl, ?_,
    (congrArg Prod.snd h).symm⟩) _).1 1 (by decide) (by decide)⟩
  intro _ _ rawActions heq raw hraw
  cases heq
  obtain rfl := List.mem_singleton.mp hraw
  rfl

end RaceLink.Scenes
