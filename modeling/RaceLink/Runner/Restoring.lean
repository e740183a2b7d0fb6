import RaceLink.Runner.SceneRequests

/-! What a refused scene request leaves. A refused create leaves the list as it was
written and read back; a refused update also leaves the scene as an update stores what
it held, which is not always what it held. -/
namespace RaceLink.Runner
open Python Library Domain Scenes Routing

/-- The list with the `updated` timestamp of the first scene with the key taken out. -/
def forgetUpdated (key : String) : List Scene → List Scene
  | [] => []
  | scene :: rest =>
    if scene.key = key then {scene with updated := .null} :: rest else scene :: forgetUpdated key rest

/-- `list` answers as before. -/
def Untouched (now : String) (s t : Service) : Prop := (items now t).1 = (items now s).1

/-- `list` answers as before, up to when the scene with the key was updated. -/
def UntouchedBut (key : String) (now : String) (s t : Service) : Prop :=
  ((items now t).1.map (forgetUpdated key)) = ((items now s).1.map (forgetUpdated key))

/-- The listed scenes are such that writing and reading them back changes none. -/
def Durable (keyText : Key → String) (env : Env) (s : Service) : Prop :=
  ∀ scenes, (items env.now s).1 = .ok scenes → scenes.map (Scene.reread keyText env.now) = scenes

/-- The scene with the key can be put back: its label has no blank at an end, and no target
of it names every group there is. -/
structure Restorable (env : Env) (scene : Scene) : Prop where
  label : strip scene.label = scene.label
  actions : applyBroadcastCollapse env.known scene.actions = scene.actions

/-- No listed scene changes by being written and read back, the timestamp of the addressed
one apart, and the addressed scene can be put back. -/
def RestorableAt (keyText : Key → String) (env : Env) (s : Service) (key : String) : Prop :=
  ∀ scenes, (items env.now s).1 = .ok scenes →
    forgetUpdated key (scenes.map (Scene.reread keyText env.now)) = forgetUpdated key scenes ∧
    ∀ prev, scenes.find? (·.key == key) = some prev → Restorable env prev

/-! ### Lists and their first scene with a key -/

theorem forgetUpdated_append {key : String} {before : List Scene} {scene : Scene} (after : List Scene)
    (hbefore : ∀ other ∈ before, ¬ other.key = key) (hkey : scene.key = key) :
    forgetUpdated key (before ++ scene :: after) = before ++ {scene with updated := .null} :: after := by
  induction before with
  | nil => exact if_pos hkey
  | cons other rest ih =>
    obtain ⟨hother, hrest⟩ := List.forall_mem_cons.mp hbefore
    rw [List.cons_append, forgetUpdated, if_neg hother, ih hrest, List.cons_append]

theorem find?_append {key : String} {before : List Scene} {scene : Scene} (after : List Scene)
    (hbefore : ∀ other ∈ before, ¬ other.key = key) (hkey : scene.key = key) :
    (before ++ scene :: after).find? (·.key == key) = some scene := by
  rw [List.find?_append, List.find?_eq_none.mpr (by simpa using hbefore), Option.none_or]
  exact List.find?_cons_of_pos (by simpa using hkey)

/-- The place of the first scene with a key is determined. -/
theorem first_with_key {key : String} {before before' after after' : List Scene} {scene scene' : Scene}
    (hbefore : ∀ other ∈ before, ¬ other.key = key) (hkey : scene.key = key)
    (hbefore' : ∀ other ∈ before', ¬ other.key = key) (hkey' : scene'.key = key)
    (h : before ++ scene :: after = before' ++ scene' :: after') :
    before = before' ∧ scene = scene' ∧ after = after' := by
  induction before generalizing before' with
  | nil =>
    cases before' with
    | nil =>
      obtain ⟨hscene, hafter⟩ := List.cons.inj h
      exact ⟨rfl, hscene, hafter⟩
    | cons other rest =>
      obtain ⟨hscene, -⟩ := List.cons.inj h
      exact absurd (hscene ▸ hkey) (hbefore' other (List.mem_cons_self ..))
  | cons other rest ih =>
    cases before' with
    | nil =>
      obtain ⟨hscene, -⟩ := List.cons.inj h
      exact absurd (hscene ▸ hkey') (hbefore other (List.mem_cons_self ..))
    | cons other' rest' =>
      obtain ⟨hother, hrest⟩ := List.cons.inj h
      obtain ⟨hbefore, hscene, hafter⟩ := ih (List.forall_mem_cons.mp hbefore).2
        (List.forall_mem_cons.mp hbefore').2 hrest
      exact ⟨by rw [hother, hbefore], hscene, hafter⟩

/-! ### The actions an update puts back -/

theorem collapseAction_textual {known : List Int} {a : Action} (h : a.Textual) :
    (collapseAction known a).Textual := by
  cases a with
  | effect e => exact h
  | startblock target params => exact h
  | sync => trivial
  | delay durationMs => trivial
  | offsetGroup target offset actions =>
    intro e he
    obtain ⟨e', he', rfl⟩ := List.mem_map.mp he
    exact h e' he'

theorem applyBroadcastCollapse_textual (known : Option (List Int)) {actions : List Action}
    (h : ∀ a ∈ actions, a.Textual) : ∀ a ∈ applyBroadcastCollapse known actions, a.Textual := by
  cases known with
  | none => exact h
  | some known =>
    intro a ha
    rw [applyBroadcastCollapse, collapseActionsToBroadcast_eq] at ha
    obtain ⟨a', ha', rfl⟩ := List.mem_map.mp ha
    exact collapseAction_textual (h a' ha')

theorem applyBroadcastCollapse_stored (known : Option (List Int)) {actions : List Action}
    (h : CanonicalList actions) :
    (applyBroadcastCollapse known actions).length ≤ MAX_ACTIONS_PER_SCENE ∧
      ∀ a ∈ applyBroadcastCollapse known actions, a.Stored := by
  cases known with
  | none => exact ⟨h.count, fun a ha => .inl (h.actions a ha)⟩
  | some known =>
    rw [applyBroadcastCollapse, collapseActionsToBroadcast_eq, List.length_map]
    refine ⟨h.count, fun a ha => ?_⟩
    obtain ⟨a', ha', rfl⟩ := List.mem_map.mp ha
    exact collapseAction_stored (h.actions a' ha')

/-- **Actions that are stored again come back as they were exactly when they survive
being written, and name no set of all groups.** -/
theorem rereadActions_collapse_eq (keyText : Key → String) (known : Option (List Int)) {actions : List Action}
    (h : CanonicalList actions) :
    rereadActions keyText (applyBroadcastCollapse known actions) = actions ↔
      rereadActions keyText actions = actions ∧ applyBroadcastCollapse known actions = actions := by
  obtain ⟨hcount, hstored⟩ := applyBroadcastCollapse_stored known h
  constructor
  · intro hback
    have htextual : ∀ a ∈ actions, a.Textual := hback ▸ rereadActions_textual hcount hstored
    refine ⟨rereadActions_of_canonical h htextual, ?_⟩
    rcases rereadActions_cases keyText hcount hstored with ⟨-, heq⟩ | ⟨-, heq⟩
    · rw [heq, dumped_textual_eq (applyBroadcastCollapse_textual known htextual)] at hback
      exact hback
    · rw [heq] at hback
      subst hback
      cases known with
      | none => rfl
      | some known => exact ite_self _
  · rintro ⟨hback, hcollapse⟩
    rw [hcollapse, hback]

/-- The actions that an update accepts back are those of the scene. -/
theorem givenActions_restoring {env : Env} {actions : List Action} {given : Option (List Action)}
    (hcount : actions.length ≤ MAX_ACTIONS_PER_SCENE) (hstored : ∀ a ∈ actions, a.Stored)
    (h : givenActions env (actionsJson actions) = .ok given) :
    CanonicalList actions ∧ given = some (applyBroadcastCollapse env.known actions) := by
  unfold givenActions at h
  rw [if_neg (by simp [actionsJson])] at h
  obtain ⟨accepted, haccepted, h⟩ := bind_ok.mp h
  cases h
  by_cases hc : ∀ a ∈ actions, a.Canonical
  · have hcanonical : CanonicalList actions := ⟨hcount, hc⟩
    rw [canonicalActions_toJson hcanonical] at haccepted
    cases haccepted
    exact ⟨hcanonical, rfl⟩
  · obtain ⟨text, args, hrefused⟩ := canonicalActions_refused hstored hcount hc
    rw [hrefused] at haccepted
    cases haccepted

/-- What an update puts in place of a scene when it is given all that another one holds. -/
theorem updatedScene_restoring {env : Env} {prev scene scene' : Scene}
    {given : Option (List Action) × Option NetworkScope} (hprev : prev.Sound)
    (hgiven : checkUpdate env (restoringArgs prev) = .ok given)
    (h : updatedScene env (restoringArgs prev) given.1 given.2 scene = .ok scene') :
    CanonicalList prev.actions ∧ scene' = {scene with
      label := strip prev.label
      actions := applyBroadcastCollapse env.known prev.actions
      stopOnError := prev.stopOnError
      networkScope := prev.networkScope
      updated := .str env.now} := by
  obtain ⟨actions, hactions, hgiven⟩ := bind_ok.mp hgiven
  obtain ⟨hcanonical, rfl⟩ := givenActions_restoring hprev.count hprev.actions hactions
  have hscope : givenScope (restoringArgs prev).networkScope = .ok (some prev.networkScope) := by
    have hnull : prev.networkScope.toJson ≠ .null := by
      cases prev.networkScope <;> simp [NetworkScope.toJson, dict]
    show givenScope prev.networkScope.toJson = _
    rw [givenScope, if_neg hnull, canonicalNetworkScope_toJson hprev.scope]
    rfl
  obtain ⟨scope, hscope', hgiven⟩ := bind_ok.mp hgiven
  obtain rfl : some prev.networkScope = scope := Except.ok.inj (hscope.symm.trans hscope')
  cases hgiven
  obtain ⟨label, hlabel, h⟩ := bind_ok.mp h
  have hlabel' : label = strip prev.label := by
    change updatedLabel scene.label (some prev.label) = .ok label at hlabel
    unfold updatedLabel at hlabel
    dsimp only at hlabel
    split at hlabel
    · cases hlabel
    · exact (Except.ok.inj hlabel).symm
  cases h
  refine ⟨hcanonical, ?_⟩
  rw [hlabel']
  simp [restoringArgs, coerceBool]

/-! ### Refused requests -/

section Refused
variable {h : Host} {keyText : Key → String} {env : Env} {s t : Service}

theorem lists_of_items (hs : Lived keyText s) {scenes : List Scene} {s' : Service}
    (hitems : items env.now s = (.ok scenes, s')) : Lists env.now s scenes :=
  Lived.lists hs (congrArg Prod.fst hitems)

/-- What a refused create leaves: the list, read back. -/
theorem create_refused (hs : Lived keyText s) {body : CreateBody} {v : ScopeViolation}
    (hrefused : apiScenesCreate h keyText env s body = (.error (.violation v), t)) :
    ∃ scenes, Lists env.now s scenes ∧
      (items env.now t).1 = .ok (scenes.map (Scene.reread keyText env.now)) := by
  unfold apiScenesCreate at hrefused
  split at hrefused
  · cases hrefused
  dsimp only at hrefused
  split at hrefused
  · next e s₁ hcreate =>
    cases e <;> cases hrefused
  · next scene s₁ hcreate =>
    have hlists : ∃ scenes, Lists env.now s scenes := by
      obtain ⟨draft, -, hrest⟩ := andThen_pure_eq_ok.mp hcreate
      obtain ⟨scenes, s', hitems, -⟩ := andThen_eq_ok.mp hrest
      exact ⟨scenes, lists_of_items hs hitems⟩
    obtain ⟨scenes, hlists⟩ := hlists
    obtain ⟨hfresh, hcreated⟩ := create_ok (Lived.counted hs) hlists hcreate
    split at hrefused
    · cases hrefused
    split at hrefused
    · cases hrefused
    · next found s₂ hdelete =>
      cases hrefused
      refine ⟨scenes, hlists, ?_⟩
      have hmem : scene.key ∈ ((scenes ++ [scene]).map (Scene.reread keyText env.now)).map (·.key) := by
        simp [Scene.reread]
      rw [(delete_ok hcreated hmem hdelete).listed]
      have hkept : (scenes ++ [scene]).filter (·.key != scene.key) = scenes := by
        rw [List.filter_append, List.filter_eq_self.mpr ?_]
        · simp
        · intro other hother
          have hne : other.key ≠ scene.key := fun heq => hfresh (heq ▸ List.mem_map_of_mem hother)
          simpa using hne
      have hfilter : ((scenes ++ [scene]).map (Scene.reread keyText env.now)).filter (·.key != scene.key) =
          scenes.map (Scene.reread keyText env.now) := by
        rw [List.filter_map]
        exact congrArg (List.map _) hkept
      rw [hfilter, List.map_map]
      exact congrArg Except.ok (List.map_congr_left fun other hother =>
        Scene.reread_reread (hlists.sound other hother))

/-- The scene that an update stores when it is given all that `prev` holds. -/
def restored (env : Env) (prev scene : Scene) : Scene :=
  {scene with
    label := strip prev.label
    actions := applyBroadcastCollapse env.known prev.actions
    stopOnError := prev.stopOnError
    networkScope := prev.networkScope
    updated := .str env.now}

/-- What the update leaves that puts a scene back. -/
theorem restoring_lists {key : String} {before after : List Scene} {prev scene : Scene}
    {found : Option Scene} (hprev : prev.Sound) (hbefore : ∀ other ∈ before, ¬ other.key = key)
    (hkey : scene.key = key) (hlists : Lists env.now s (before ++ scene :: after))
    (hrestore : update keyText env s key (restoringArgs prev) = (.ok found, t)) :
    CanonicalList prev.actions ∧
      Lists env.now t ((before ++ restored env prev scene :: after).map (Scene.reread keyText env.now)) := by
  cases found with
  | none =>
    have hmissing := update_none hlists hrestore
    exact absurd (by simp [hkey]) hmissing
  | some scene' =>
    obtain ⟨given, before', prev', after', hgiven, heq, hbefore', hkey', hupdated, hlists'⟩ :=
      update_ok hlists hrestore
    obtain ⟨rfl, rfl, rfl⟩ := first_with_key hbefore hkey hbefore' hkey' heq
    obtain ⟨hcanonical, rfl⟩ := updatedScene_restoring hprev hgiven hupdated
    exact ⟨hcanonical, hlists'⟩

theorem map_reread_twice {scenes : List Scene} (h : ∀ scene ∈ scenes, scene.Sound) :
    (scenes.map (Scene.reread keyText env.now)).map (Scene.reread keyText env.now) =
      scenes.map (Scene.reread keyText env.now) := by
  rw [List.map_map]
  exact List.map_congr_left fun scene hscene => Scene.reread_reread (h scene hscene)

/-- What a refused update leaves: the list read back, and in it the scene as it was put back. -/
theorem update_refused (hs : Lived keyText s) {key : String} {body : UpdateArgs} {v : ScopeViolation}
    (hrefused : apiScenesUpdate h keyText env s key body = (.error (.violation v), t)) :
    ∃ before prev after final, Lists env.now s (before ++ prev :: after) ∧
      (∀ other ∈ before, ¬ other.key = key) ∧ prev.key = key ∧ CanonicalList prev.actions ∧
      {final with updated := Json.null} = {prev.reread keyText env.now with
        label := strip prev.label
        actions := rereadActions keyText (applyBroadcastCollapse env.known prev.actions)
        updated := Json.null} ∧
      (items env.now t).1 = .ok (before.map (Scene.reread keyText env.now) ++
        final :: after.map (Scene.reread keyText env.now)) := by
  unfold apiScenesUpdate at hrefused
  split at hrefused
  · cases hrefused
  next prevScene s₁ hget =>
  obtain ⟨scenes, s₁', hitems, hfind⟩ := andThen_eq_ok.mp hget
  cases hfind
  have hlists := lists_of_items hs hitems
  have hlists₁ : Lists env.now s₁ scenes := by
    refine ⟨?_, hlists.sound, hlists.nodup⟩
    have hcache := items_cache (congrArg Prod.fst hitems)
    rw [hitems] at hcache
    unfold items
    rw [hcache]
  split at hrefused
  · next e s₂ hupdate =>
    cases e <;> cases hrefused
  · cases hrefused
  next scene s₂ hupdate =>
  obtain ⟨given, before, prev, after, -, rfl, hbefore, hkey, hupdated, hlists₂⟩ := update_ok hlists₁ hupdate
  rw [find?_append after hbefore hkey] at hrefused
  split at hrefused
  · cases hrefused
  dsimp only at hrefused
  split at hrefused
  · cases hrefused
  next found s₃ hrestore =>
  cases hrefused
  obtain ⟨label, -, hscene⟩ := bind_ok.mp hupdated
  cases hscene
  have hprev : prev.Sound := hlists.sound prev (by simp)
  have hbefore' : ∀ other ∈ before.map (Scene.reread keyText env.now), ¬ other.key = key := by
    intro other hother
    obtain ⟨scene, hscene, rfl⟩ := List.mem_map.mp hother
    exact hbefore scene hscene
  rw [List.map_append, List.map_cons] at hlists₂
  obtain ⟨hcanonical, hlists₃⟩ := restoring_lists hprev hbefore' (by exact hkey) hlists₂ hrestore
  rw [List.map_append, List.map_cons,
    map_reread_twice fun other hother => hlists.sound other (by simp [hother]),
    map_reread_twice fun other hother => hlists.sound other (by simp [hother])] at hlists₃
  refine ⟨before, prev, after, _, hlists, hbefore, hkey, hcanonical, ?_, hlists₃.listed⟩
  have hcreated : ((prev.reread keyText env.now).reread keyText env.now).created =
      (prev.reread keyText env.now).created := congrArg Scene.created (Scene.reread_reread hprev)
  simp only [Scene.reread, restored] at hcreated ⊢
  rw [hcreated]

/-- The scene put back is the old one, the timestamp apart, when its label is trimmed and its
actions survive both the collapse and the file. -/
theorem restored_eq_iff {prev : Scene} (hcanonical : CanonicalList prev.actions) :
    {prev.reread keyText env.now with
        label := strip prev.label
        actions := rereadActions keyText (applyBroadcastCollapse env.known prev.actions)
        updated := Json.null} = {prev with updated := Json.null} ↔
      {prev.reread keyText env.now with updated := Json.null} = {prev with updated := Json.null} ∧
        Restorable env prev := by
  have hactions := rereadActions_collapse_eq keyText env.known hcanonical
  simp only [Scene.reread, Scene.mk.injEq, true_and, and_true]
  constructor
  · rintro ⟨hlabel, hcreated, hback⟩
    obtain ⟨hkept, hcollapse⟩ := hactions.mp hback
    exact ⟨⟨hcreated, hkept⟩, hlabel, hcollapse⟩
  · rintro ⟨⟨hcreated, hkept⟩, hlabel, hcollapse⟩
    exact ⟨hlabel, hcreated, hactions.mpr ⟨hkept, hcollapse⟩⟩

/-- **A create that the check of the scope refuses leaves the list as it was exactly when
every listed scene survives the file; a refused update does when moreover the scene can
be put back.** -/
theorem refused_requests_leave_scenes_iff (h : Host) (keyText : Key → String) (env : Env) {s : Service}
    (hs : Lived keyText s) :
    (∀ body v t, apiScenesCreate h keyText env s body = (.error (.violation v), t) →
      (Untouched env.now s t ↔ Durable keyText env s)) ∧
    (∀ key body v t, apiScenesUpdate h keyText env s key body = (.error (.violation v), t) →
      (UntouchedBut key env.now s t ↔ RestorableAt keyText env s key)) := by
  refine ⟨fun body v t hrefused => ?_, fun key body v t hrefused => ?_⟩
  · obtain ⟨scenes, hlists, hanswer⟩ := create_refused hs hrefused
    unfold Untouched Durable
    rw [hanswer, hlists.listed]
    constructor
    · intro heq scenes' hscenes'
      cases hscenes'
      exact Except.ok.inj heq
    · intro hdurable
      rw [hdurable scenes rfl]
  · obtain ⟨before, prev, after, final, hlists, hbefore, hkey, hcanonical, hfinal, hanswer⟩ :=
      update_refused hs hrefused
    have hbefore' : ∀ other ∈ before.map (Scene.reread keyText env.now), ¬ other.key = key := by
      intro other hother
      obtain ⟨scene, hscene, rfl⟩ := List.mem_map.mp hother
      exact hbefore scene hscene
    have hfinalkey : final.key = key := (congrArg Scene.key hfinal).trans hkey
    have hsplit : ∀ x y : Scene, before.map (Scene.reread keyText env.now) ++
        x :: after.map (Scene.reread keyText env.now) = before ++ y :: after ↔
          before.map (Scene.reread keyText env.now) = before ∧ x = y ∧
            after.map (Scene.reread keyText env.now) = after := by
      intro x y
      constructor
      · intro heq
        obtain ⟨hbefore, hrest⟩ := List.append_inj heq (List.length_map _)
        exact ⟨hbefore, List.cons.inj hrest⟩
      · rintro ⟨hbefore, rfl, hafter⟩
        rw [hbefore, hafter]
    unfold UntouchedBut RestorableAt
    rw [hanswer, hlists.listed]
    simp only [Except.map, Except.ok.injEq, forall_eq']
    rw [forgetUpdated_append _ hbefore' hfinalkey, forgetUpdated_append _ hbefore hkey, List.map_append,
      List.map_cons, forgetUpdated_append _ hbefore' (by exact hkey), find?_append after hbefore hkey, hfinal]
    simp only [Option.some.injEq, forall_eq']
    rw [hsplit, hsplit, restored_eq_iff hcanonical]
    constructor
    · rintro ⟨hfst, ⟨hmid, hrestorable⟩, hlast⟩
      exact ⟨⟨hfst, hmid, hlast⟩, hrestorable⟩
    · rintro ⟨⟨hfst, hmid, hlast⟩, hrestorable⟩
      exact ⟨hfst, ⟨hmid, hrestorable⟩, hlast⟩

end Refused

/-! ### Two stores -/

/-- A host with no network, so that every explicit scope is refused. -/
def noNetworks : Host := ⟨[], [], [], []⟩

/-- A scene for the given groups, created while groups 1, 2 and 3 are known. -/
def sceneFor (groups : List Int) : Service :=
  (create (fun _ => "") ⟨"t", true, some [1, 2, 3]⟩ (.fresh .missing) {
    label := "S"
    actions := .arr [dict [("kind", .str "startblock"),
      ("target", dict [("kind", .str "groups"), ("value", .arr (groups.map .int))])]]}).2

theorem sceneFor_lived (groups : List Int) : Lived (fun _ => "") (sceneFor groups) :=
  ⟨.missing, [⟨_, .call (.create _)⟩], rfl⟩

/-- The scene gets a scope with an unknown network, while groups 1 and 2 are known. -/
def scopeRefused (groups : List Int) : Except SceneError Scene × Service :=
  apiScenesUpdate noNetworks (fun _ => "") ⟨"u", true, some [1, 2]⟩ (sceneFor groups) "s"
    {networkScope := NetworkScope.toJson (.explicit ["n"])}

theorem scopeRefused_leaves_scene :
    (scopeRefused [1]).1 = .error (.violation (.unknownNetworkId ["n"] ["n"])) ∧
      UntouchedBut "s" "u" (sceneFor [1]) (scopeRefused [1]).2 := by
  have hrefused : (scopeRefused [1]).1 = .error (.violation (.unknownNetworkId ["n"] ["n"])) := by
    decide +kernel
  refine ⟨hrefused, ((refused_requests_leave_scenes_iff noNetworks (fun _ => "") ⟨"u", true, some [1, 2]⟩
    (sceneFor_lived [1])).2 "s" _ _ (scopeRefused [1]).2 (Prod.ext hrefused rfl)).mpr ?_⟩
  intro scenes hscenes
  have hlisted : scenes = [⟨0, "s", "S", .str "t", .str "t", [.startblock (.groups [1]) []], true, .auto⟩] := by
    have hitems : (items "u" (sceneFor [1])).1 =
        .ok [⟨0, "s", "S", .str "t", .str "t", [.startblock (.groups [1]) []], true, .auto⟩] := by
      decide +kernel
    exact Except.ok.inj (hscenes.symm.trans hitems)
  rw [hlisted]
  refine ⟨by decide +kernel, fun prev hprev => ?_⟩
  cases hprev
  exact ⟨by decide +kernel, by decide +kernel⟩

/-- A file with one scene, whose label has a blank at its end, as a service that was just
made over it has it. -/
def untrimmedLabel : Service := .fresh (.doc (dict [("schema_version", .int 1), ("next_id", .int 1),
  ("scenes", .arr [dict [("id", .int 0), ("key", .str "s"), ("label", .str "S "),
    ("created", .str "t"), ("updated", .str "t"), ("actions", .arr []), ("stop_on_error", .bool true)]])]))

/-- The refused request trims the label, though nothing asks for it. A scene for the groups 1
and 2 is for everyone after it. -/
theorem refused_scope_changes_scene :
    (¬ ∀ (h : Host) (keyText : Key → String) (env : Env) (s : Service), Lived keyText s →
      env.known = none →
      ∀ key body v t, apiScenesUpdate h keyText env s key body = (.error (.violation v), t) →
        UntouchedBut key env.now s t) ∧
    (scopeRefused [1, 2]).1 = .error (.violation (.unknownNetworkId ["n"] ["n"])) ∧
    (items "u" (scopeRefused [1, 2]).2).1.toOption.map (·.map (·.actions)) =
      some [[.startblock .broadcast []]] := by
  refine ⟨fun hclaim => ?_, by decide +kernel, by decide +kernel⟩
  have hrefused : (apiScenesUpdate noNetworks (fun _ => "") ⟨"u", true, none⟩ untrimmedLabel "s"
      {networkScope := NetworkScope.toJson (.explicit ["n"])}).1 =
        .error (.violation (.unknownNetworkId ["n"] ["n"])) := by
    decide +kernel
  have hsame := hclaim noNetworks (fun _ => "") ⟨"u", true, none⟩ untrimmedLabel ⟨_, [], rfl⟩ rfl "s" _ _ _
    (Prod.ext hrefused rfl)
  revert hsame
  unfold UntouchedBut
  decide +kernel

end RaceLink.Runner
