import RaceLink.Scenes.Calls

/-! Saving and reloading a scene: a `create` or an `update` stores the validated and
rewritten actions, and the next service reads them from the file.

The two passes compose to a fixed point except where the rewriting takes from an
explicit table the groups it is a table of. Params survive when the keys of their
dicts are strings. -/
namespace RaceLink.Scenes
open Python Library

section Reload
variable (keyText : Key → String)

/-- A call that stores the raw actions in `scene` and leaves the service `s'`. -/
inductive SavedBy (env : Env) (s : Service) (rawActions : List Json) (scene : Scene)
    (s' : Service) : Prop where
  | create (args : CreateArgs) : args.actions = .arr rawActions →
      create keyText env s args = (.ok scene, s') → SavedBy env s rawActions scene s'
  | update (key : String) (args : UpdateArgs) : args.actions = .arr rawActions →
      update keyText env s key args = (.ok (some scene), s') → SavedBy env s rawActions scene s'

/-- The stored actions are a fixed point of the validator, and a service that reads
the file afterwards has them again. -/
def SurvivesReload (scene : Scene) (file : File) : Prop :=
  canonicalActions (actionsJson scene.actions) = .ok scene.actions ∧
  ∀ now, ∃ reloaded s', get now (.fresh file) scene.key = (.ok (some reloaded), s') ∧
    reloaded.actions = scene.actions

variable {keyText}

theorem uniqueKey_fresh {desired key : String} {taken : List String}
    (h : uniqueKey desired taken = .ok key) : key ∉ taken := by
  unfold uniqueKey at h
  split at h
  · next hfree =>
    cases h
    exact hfree
  · split at h
    · next candidate hfind =>
      cases h
      simpa using List.find?_some hfind
    · cases h

theorem writeItems_ok {env : Env} {s s' : Service} {scenes : List Scene}
    (h : writeItems keyText env s scenes = (.ok (), s')) :
    s'.file = .doc ((payload s.nextId scenes).dump keyText) := by
  unfold writeItems at h
  split at h
  · cases h
    rfl
  · cases h

theorem replaceFirst_key {key : String} {f : Scene → Except PyError Scene}
    (hf : ∀ scene scene', f scene = .ok scene' → scene'.key = scene.key)
    {scenes scenes' : List Scene} {scene : Scene}
    (h : replaceFirst key f scenes = .ok (some (scene, scenes'))) : scene.key = key := by
  induction scenes generalizing scenes' with
  | nil => cases h
  | cons first rest ih =>
    unfold replaceFirst at h
    split at h
    · next hkey =>
      obtain ⟨updated, hu, h⟩ := bind_ok.mp h
      cases h
      rw [hf _ _ hu, hkey]
    · obtain ⟨found, hfound, h⟩ := bind_ok.mp h
      cases found with
      | none => cases h
      | some pair =>
        cases h
        exact ih hfound

/-- The replaced scene is the first of its key in the new list too. -/
theorem replaceFirst_found {key : String} {f : Scene → Except PyError Scene}
    (hf : ∀ scene scene', f scene = .ok scene' → scene'.key = scene.key)
    {scenes scenes' : List Scene} {scene : Scene}
    (h : replaceFirst key f scenes = .ok (some (scene, scenes'))) :
    scenes'.find? (·.key == scene.key) = some scene ∧ ∃ old, f old = .ok scene := by
  induction scenes generalizing scenes' with
  | nil => cases h
  | cons first rest ih =>
    unfold replaceFirst at h
    split at h
    · obtain ⟨updated, hu, h⟩ := bind_ok.mp h
      cases h
      exact ⟨by simp, first, hu⟩
    · next hne =>
      obtain ⟨found, hfound, h⟩ := bind_ok.mp h
      cases found with
      | none => cases h
      | some pair =>
        obtain ⟨updated, rest'⟩ := pair
        cases h
        obtain ⟨hfind, old, hold⟩ := ih hfound
        have hkey : first.key ≠ scene.key := fun heq => hne (heq.trans (replaceFirst_key hf hfound))
        refine ⟨?_, old, hold⟩
        rw [List.find?_cons, beq_eq_false_iff_ne.mpr hkey]
        exact hfind

/-- What a save leaves: the written scenes, among them the one that was returned, with
the validated and rewritten actions. -/
theorem SavedBy.written {env : Env} {s s' : Service} {rawActions : List Json} {scene : Scene}
    (h : SavedBy keyText env s rawActions scene s') (hs : s.All Scene.Sound fun _ => True) :
    ∃ nextId scenes validated, s'.file = .doc ((payload nextId scenes).dump keyText) ∧
      (∀ scene ∈ scenes, scene.Sound) ∧ scenes.find? (·.key == scene.key) = some scene ∧
      canonicalActions (.arr rawActions) = .ok validated ∧
      scene.actions = applyBroadcastCollapse env.known validated := by
  obtain ⟨-, hsound⟩ := items_all (sound_invariant keyText) env.now hs
  cases h with
  | create args hargs h =>
    obtain ⟨draft, hd, h⟩ := andThen_pure_eq_ok.mp h
    obtain ⟨scenes, s₁, hi, h⟩ := andThen_eq_ok.mp h
    obtain ⟨key, hk, h⟩ := andThen_pure_eq_ok.mp h
    obtain ⟨⟨⟩, s₂, hw, h⟩ := andThen_eq_ok.mp h
    cases h
    rw [hi] at hsound
    obtain ⟨validated, hvalidated, hactions, -⟩ := draftScene_ok hd
    refine ⟨_, _, validated, writeItems_ok hw, fun sc hmem => ?_, ?_, hargs ▸ hvalidated, hactions⟩
    · rcases List.mem_append.mp hmem with hmem | hmem
      · exact hsound scenes rfl sc hmem
      · rw [List.mem_singleton.mp hmem]
        exact call_keeps_sound env (.create args) draft hd _ _
    · have hfresh : scenes.find? (·.key == key) = none := List.find?_eq_none.mpr fun sc hmem heq =>
        uniqueKey_fresh hk (List.mem_map.mpr ⟨sc, hmem, by simpa using heq⟩)
      rw [List.find?_append, show (draft.named _ key).key = key from rfl, hfresh]
      simp [Scene.named]
  | update key args hargs h =>
    obtain ⟨given, hc, h⟩ := andThen_pure_eq_ok.mp h
    obtain ⟨scenes, s₁, hi, h⟩ := andThen_eq_ok.mp h
    obtain ⟨found, hr, h⟩ := andThen_pure_eq_ok.mp h
    rw [hi] at hsound
    cases found with
    | none => cases h
    | some pair =>
      obtain ⟨⟨⟩, s₂, hw, h⟩ := andThen_eq_ok.mp h
      cases h
      obtain ⟨hfind, old, hold⟩ := replaceFirst_found (fun _ _ hu => (updatedScene_ok hu).1) hr
      obtain ⟨hgiven, -⟩ := checkUpdate_ok hc
      rcases hgiven with ⟨hnull, -⟩ | ⟨validated, hvalidated, hsome⟩
      · rw [hargs] at hnull
        cases hnull
      · refine ⟨_, _, validated, writeItems_ok hw, ?_, hfind, hargs ▸ hvalidated, ?_⟩
        · exact replaceFirst_all (call_keeps_sound env (.update key args) given hc)
            (hsound scenes rfl) hr
        · rw [(updatedScene_ok hold).2.1, hsome]
          rfl

/-- Stored actions survive exactly when they are canonical and their params textual. -/
theorem survivesReload_stored {nextId : Option Int} {scenes : List Scene} {scene : Scene}
    (hscenes : ∀ scene ∈ scenes, scene.Sound)
    (hfind : scenes.find? (·.key == scene.key) = some scene) :
    SurvivesReload scene (.doc ((payload nextId scenes).dump keyText)) ↔
      ∀ a ∈ scene.actions, a.Canonical ∧ a.Textual := by
  have hscene := hscenes scene (List.mem_of_find?_eq_some hfind)
  have hget : ∀ now, ∃ reloaded s',
      get now (.fresh (.doc ((payload nextId scenes).dump keyText))) scene.key =
        (.ok (some reloaded), s') ∧ scene.Reloaded keyText reloaded := by
    intro now
    obtain ⟨scenes', nextId', hload, hall⟩ := load_payload keyText now nextId hscenes
    obtain ⟨reloaded, hfound, hrel⟩ := find?_forall₂ (q := (·.key == scene.key))
      (fun x y hxy => by rw [Scene.Reloaded.key hxy]) hall hfind
    refine ⟨reloaded, {(Service.fresh (.doc ((payload nextId scenes).dump keyText))) with
      cache := some scenes', nextId := some nextId'}, ?_, hrel⟩
    simp [get, items, Service.fresh, hload, hfound]
  obtain ⟨hgood, -⟩ := loadActions_stored keyText hscene.count hscene.actions
  constructor
  · rintro ⟨hfixed, hreload⟩
    have hcanonical := canonicalActions_canonical hfixed
    obtain ⟨reloaded, s', hr, hrel⟩ := hget ""
    obtain ⟨reloaded', s'', hr', hsame⟩ := hreload ""
    rw [hr] at hr'
    cases hr'
    have hdumped : scene.actions.map (Action.dumped keyText) = scene.actions :=
      (Except.ok.inj ((hgood hcanonical.actions).symm.trans hrel.actions)).trans hsame
    exact fun a ha => ⟨hcanonical.actions a ha,
      (Action.dumped_eq_self keyText a).mp (map_eq_self.mp hdumped a ha)⟩
  · intro h
    refine ⟨canonicalActions_toJson ⟨hscene.count, fun a ha => (h a ha).1⟩, fun now => ?_⟩
    obtain ⟨reloaded, s', hr, hrel⟩ := hget now
    refine ⟨reloaded, s', hr, ?_⟩
    have hloaded := Except.ok.inj (hrel.actions.symm.trans (hgood fun a ha => (h a ha).1))
    rw [hloaded]
    exact map_eq_self.mpr fun a ha => (Action.dumped_eq_self keyText a).mpr (h a ha).2

theorem collapseAction_textual {known : List Int} {a : Action} :
    (collapseAction known a).Textual ↔ a.Textual := by
  cases a with
  | offsetGroup target offset actions =>
    simp [collapseAction, Action.Textual, Effect.collapse]
  | _ => exact Iff.rfl

/-- A validated action is stored as a canonical one unless its table is over all known groups. -/
theorem collapseAction_canonical_iff {known : List Int} {a : Action} (h : a.Canonical) :
    (collapseAction known a).Canonical ↔ a.explicitOverAll known = false := by
  cases hexp : a.explicitOverAll known with
  | false => simp [collapseAction_canonical h hexp]
  | true =>
    obtain ⟨values, actions, heq⟩ := collapseAction_explicit h.1 hexp
    rw [heq]
    simp only [Bool.true_eq_false, iff_false]
    exact fun hc => Action.explicit_broadcast_not_valid values actions hc.1

/-- **A saved action list comes back from the file as it was stored exactly when no
container has an explicit table over all known groups and all params have string keys.** -/
theorem survivesReload_iff {env : Env} {s s' : Service} {rawActions : List Json} {scene : Scene}
    (hs : ReachableService keyText s) (h : SavedBy keyText env s rawActions scene s') :
    SurvivesReload scene s'.file ↔
      ∀ raw ∈ rawActions, explicitOverAll (env.known.getD []) raw = false ∧ TextualParams raw := by
  obtain ⟨nextId, scenes, validated, hfile, hscenes, hfind, hvalidated, hactions⟩ :=
    h.written (reachable_sound hs)
  rw [hfile, survivesReload_stored hscenes hfind, hactions, applyBroadcastCollapse_eq]
  have hall : List.Forall₂ (fun r a => canonicalAction r = .ok a) rawActions validated :=
    mapM_ok.mp (guard_ok.mp hvalidated).2
  exact forall_mem_iff_of_forall₂ (fun raw a hraw => by
    obtain ⟨hover, -, htextual⟩ := canonicalAction_input hraw
    rw [collapseAction_canonical_iff (canonicalAction_canonical hraw), collapseAction_textual, hover,
      htextual]) hall

end Reload

/-! ### Two saves -/

/-- A container over group 1 with a table for it, as a request carries it. -/
def tableOverGroupOne : Json :=
  dict [("kind", .str "offset_group"),
    ("target", dict [("kind", .str "groups"), ("value", .arr [.int 1])]),
    ("offset", dict [("mode", .str "explicit"),
      ("values", .arr [dict [("id", .int 1), ("offset_ms", .int 100)]])]),
    ("actions", .arr [])]

/-- `create` of a scene "A" with that action on an empty store. -/
def createTable (known : List Int) : Except PyError Scene × Service :=
  create (fun _ => "") ⟨"2026-01-01T00:00:00Z", true, some known⟩ (.fresh .missing)
    {label := "A", actions := .arr [tableOverGroupOne]}

/-- With group 1 the only known group the save is accepted and the reload drops the actions. -/
theorem create_over_all_lost :
    ∃ scene s', createTable [1] = (.ok scene, s') ∧ ¬ SurvivesReload scene s'.file ∧
      (get "later" (.fresh s'.file) scene.key).1 = .ok (some {scene with actions := []}) := by
  refine ⟨_, _, rfl, fun h => ?_, rfl⟩
  have hrefused : canonicalActions (actionsJson _) = _ := h.1
  cases hrefused

/-- With a second group known the same save survives. -/
theorem create_partial_survives :
    ∃ scene s', createTable [1, 2] = (.ok scene, s') ∧ SurvivesReload scene s'.file := by
  obtain ⟨scene, s', h⟩ : ∃ scene s', createTable [1, 2] = (.ok scene, s') := ⟨_, _, rfl⟩
  refine ⟨scene, s', h, (survivesReload_iff (.start ⟨.missing, rfl⟩) (.create _ rfl h)).mpr ?_⟩
  intro raw hraw
  obtain rfl := List.mem_singleton.mp hraw
  refine ⟨rfl, fun m hm => ?_⟩
  cases hm
  exact fun fields hfields => by cases hfields

end RaceLink.Scenes
