import RaceLink.Scenes.Failures
import RaceLink.Scenes.RenumberProofs

/-! Renaming the groups of any stored scenes, by any rule.

The rewritten actions go through the validator, which may refuse them: an id may have
left the range, or a table with repeated ids may have lost a row. What it accepts is
the renaming that was asked for. -/
namespace RaceLink.Scenes
open Python Library

section Accepted
variable {f : Int → Int}

/-! ### What the validator accepts of a renamed action -/

/-- Ids that are taken were in range. -/
theorem collectGroupIds_range {ids new out : List Int}
    (h : collectGroupIds ids (new.map .int) = .ok out) : ∀ g ∈ new, 0 ≤ g ∧ g ≤ GROUP_ID_MAX := by
  induction new generalizing ids with
  | nil => simp
  | cons v rest ih =>
    obtain ⟨v', hv, h⟩ := bind_ok.mp h
    cases hv
    obtain ⟨hbound, h⟩ := guard_ok.mp h
    obtain ⟨-, h⟩ := guard_ok.mp h
    exact List.forall_mem_cons.mpr ⟨by omega, ih h⟩

theorem Target.Valid.of_accepted {t t' : Target} (ht : t.Valid)
    (h : canonicalTarget (t.rename f).toJson = .ok t') : (t.rename f).Valid := by
  cases t with
  | broadcast => trivial
  | device value => exact ht
  | groups ids =>
    obtain ⟨g, hg⟩ := List.exists_mem_of_ne_nil _ ht.nonempty
    have hmem : f g ∈ keepFirst id [] (ids.map f) := mem_renamed_ids.mpr ⟨g, hg, rfl⟩
    obtain ⟨first, rest, hcons⟩ := List.exists_cons_of_ne_nil (List.ne_nil_of_mem hmem)
    refine ⟨List.ne_nil_of_mem hmem, keepFirst_id_nodup, ?_⟩
    rw [Target.rename, hcons] at h
    obtain ⟨out, hout, -⟩ := bind_ok.mp (show (do
      let ids ← collectGroupIds [] ((first :: rest).map .int)
      Except.ok (Target.groups (sortIds ids))) = .ok t' from h)
    rw [hcons]
    exact collectGroupIds_range hout

theorem OffsetEntry.valid_of_accepted {ids : List Int} {e e' : OffsetEntry}
    (h : canonicalOffsetEntry ids e.toJson = .ok e') : e.Valid ids := by
  have heq : e' = e := by
    obtain ⟨gid, hgid, h⟩ := bind_ok.mp (show (do
      let gid ← validateInt "groups_offset.offset.values[].id" (.int e.id) 0 GROUP_ID_MAX
      if gid ∉ ids then
        .error (.valueError "groups_offset.offset.values references id %s not in groups" [.int gid])
      else do
        let ms ← validateInt "groups_offset.offset.values[].offset_ms" (.int e.offsetMs)
          OFFSET_MS_MIN OFFSET_MS_MAX
        .ok (⟨gid, ms⟩ : OffsetEntry)) = .ok e' from h)
    obtain ⟨-, h⟩ := guard_ok.mp h
    obtain ⟨ms, hms, h⟩ := bind_ok.mp h
    cases h
    cases validateInt_toInt hgid
    cases validateInt_toInt hms
    rfl
  exact heq ▸ entry_ok h

/-- A table that is accepted fits the groups it was accepted for. -/
theorem Table.of_accepted {ids : List Int} {values : List OffsetEntry} {block : OffsetBlock}
    (h : canonicalOffsetBlock (some ids) (OffsetBlock.explicit values).toJson = .ok block) :
    Table ids values := by
  have hblock : canonicalOffsetBlock (some ids) (OffsetBlock.explicit values).toJson =
      if (values.map OffsetEntry.toJson).length ≠ ids.length
      then .error canonicalOffsetBlock.valuesError
      else (values.map OffsetEntry.toJson).mapM (canonicalOffsetEntry ids) >>= fun rows =>
        .ok (OffsetBlock.explicit (sortEntries rows)) := rfl
  rw [hblock] at h
  obtain ⟨hlength, h⟩ := guard_ok.mp h
  obtain ⟨rows, hrows, -⟩ := bind_ok.mp h
  rw [List.length_map] at hlength
  refine ⟨not_not.mp hlength, fun e he => ?_⟩
  have hall := (List.forall₂_map_left_iff.mp (mapM_ok.mp hrows))
  obtain ⟨e', -, he'⟩ := exists_of_forall₂_left hall he
  exact OffsetEntry.valid_of_accepted he'

theorem Target.rename_device {t : Target} (h : ∀ value, t ≠ .device value) :
    ∀ value, t.rename f ≠ .device value := by
  cases t with
  | device value => exact absurd rfl (h value)
  | broadcast => exact fun _ h => nomatch h
  | groups ids => exact fun _ h => nomatch h

/-- No more groups after a renaming than before. -/
theorem Target.rename_entries (t : Target) :
    ((t.rename f).groupIds.getD []).length ≤ (t.groupIds.getD []).length := by
  cases t with
  | broadcast => exact Nat.le_refl _
  | device value => exact Nat.le_refl _
  | groups ids =>
    show (keepFirst id [] (ids.map f)).length ≤ ids.length
    exact length_keepFirst_le.trans_eq (List.length_map ..)

theorem Table.unsorted {ids : List Int} {values : List OffsetEntry} (h : Table (sortIds ids) values) :
    Table ids values where
  length := by rw [h.length, (sortIds_perm ids).length_eq]
  entries := fun e he => (h.entries e he).mono fun _ hg => mem_sortIds.mp hg

theorem OffsetBlock.Valid.of_accepted {t : Target} {b block : OffsetBlock} (hb : b.Valid t.groupIds)
    (h : canonicalOffsetBlock (t.rename f).normal.groupIds (b.rename f).toJson = .ok block) :
    (b.rename f).Valid (t.rename f).groupIds := by
  cases b with
  | explicit values =>
    obtain ⟨ids, hids, -⟩ := hb
    cases t with
    | broadcast => cases hids
    | device value => cases hids
    | groups ids => exact ⟨_, rfl, (Table.of_accepted h).unsorted⟩
  | none => exact hb
  | linear base step => exact hb
  | vshape base step center => exact hb
  | modulo base step cycle => exact hb

/-- An effect is accepted with its target. -/
theorem effect_accepted {e : Effect} {b : Action} (h : canonicalAction e.toJson = .ok b) :
    ∃ t', canonicalTarget e.target.toJson = .ok t' := by
  rw [effect_unmigrated] at h
  obtain ⟨kind, target, params, flags⟩ := e
  cases kind <;>
    · obtain ⟨t', ht', -⟩ := bind_ok.mp h
      exact ⟨t', ht'⟩

theorem startblock_accepted {t : Target} {params : Dict} {b : Action}
    (h : canonicalAction (Action.startblock t params).toJson = .ok b) :
    ∃ t', canonicalTarget t.toJson = .ok t' := by
  rw [startblock_unmigrated] at h
  obtain ⟨t', ht', -⟩ := bind_ok.mp h
  exact ⟨t', ht'⟩

/-- A container is accepted with its target. -/
theorem container_accepted {t : Target} {offset : OffsetBlock} {actions : List Effect} {b : Action}
    (h : canonicalAction (Action.offsetGroup t offset actions).toJson = .ok b) :
    ∃ t', canonicalTarget t.toJson = .ok t' := by
  rw [container_unmigrated] at h
  obtain ⟨_, -, h⟩ := bind_ok.mp h
  obtain ⟨raw, target, -, -, -, -, hraw', htarget, -⟩ := offsetGroup_ok h
  rw [containerTargetRaw_stored] at hraw'
  cases hraw'
  exact ⟨target, htarget⟩

theorem child_accepted {parentGroups : Option (List Int)} {e e' : Effect}
    (h : canonicalOffsetGroupChild parentGroups e.toJson = .ok e') :
    ∃ t', canonicalTarget e.target.toJson = .ok t' := by
  obtain ⟨kind, target, params, flags⟩ := e
  cases kind <;>
    · obtain ⟨t', ht', -⟩ := bind_ok.mp h
      exact ⟨t', (childTarget_ok.mp ht').1⟩

/-- **What the validator accepts of a renamed valid action is the renamed action, in order.** -/
theorem Action.Valid.of_accepted {a b : Action} (ha : a.Valid)
    (h : canonicalAction (a.rename f).toJson = .ok b) : (a.rename f).Valid := by
  cases a with
  | sync => trivial
  | delay durationMs => exact ha
  | effect e =>
    obtain ⟨t', ht'⟩ := effect_accepted h
    exact Target.Valid.of_accepted ha ht'
  | startblock target params =>
    obtain ⟨t', ht'⟩ := startblock_accepted h
    exact Target.Valid.of_accepted ha ht'
  | offsetGroup target offset actions =>
    have hcontainer : Container target offset actions := ha
    obtain ⟨t', ht'⟩ := container_accepted h
    have hscope : (target.rename f).Valid := Target.Valid.of_accepted hcontainer.scope ht'
    have hdev := Target.rename_device (f := f) hcontainer.not_device
    have hrename : Action.rename f (.offsetGroup target offset actions) =
        .offsetGroup (target.rename f) (offset.rename f) (actions.map (Effect.rename f)) := rfl
    rw [hrename, canonicalAction_offsetGroup hscope hdev] at h
    obtain ⟨-, h⟩ := guard_ok.mp h
    obtain ⟨block, hblock, h⟩ := bind_ok.mp h
    obtain ⟨hcount, h⟩ := guard_ok.mp h
    obtain ⟨children, hchildren, -⟩ := bind_ok.mp h
    have hall := List.forall₂_map_left_iff.mp (List.forall₂_map_left_iff.mp (mapM_ok.mp hchildren))
    refine ⟨hscope, hdev, (target.rename_entries).trans hcontainer.entries,
      OffsetBlock.Valid.of_accepted hcontainer.block hblock, by simpa using hcontainer.count,
      fun e' he' => ?_⟩
    obtain ⟨e, he, rfl⟩ := List.mem_map.mp he'
    obtain ⟨child, -, hchild⟩ := exists_of_forall₂_left hall he
    obtain ⟨t'', ht''⟩ := child_accepted hchild
    have hvalid := hcontainer.children e he
    exact ⟨Target.Valid.of_accepted hvalid.target ht'', hvalid.within.rename⟩

/-! ### Scenes -/

/-- A scene whose references were renamed, and nothing else but the time of its last change. -/
structure Scene.Follows (f : Int → Int) (old new : Scene) : Prop where
  rest : ∃ actions updated, new = {old with actions, updated}
  references : List.Forall₂ (Action.Renamed f) old.actions new.actions

theorem Target.renamed_rename (t : Target) : t.Renamed f (t.rename f) := by
  cases t with
  | broadcast => rfl
  | device value => rfl
  | groups ids => exact ⟨_, rfl, keepFirst_id_nodup, fun g => mem_renamed_ids⟩

theorem Effect.renamed_rename (e : Effect) : e.Renamed f (e.rename f) :=
  ⟨Target.renamed_rename e.target, rfl, rfl, rfl⟩

theorem OffsetBlock.renamed_rename (b : OffsetBlock) : b.Renamed f (b.rename f) := by
  cases b with
  | explicit values =>
    refine ⟨_, rfl, keepFirst_nodup, fun g => ?_, fun e' he' => ?_⟩
    · rw [renamed_values_ids, mem_renamed_ids]
    · obtain ⟨e, he, rfl⟩ := List.mem_map.mp (keepFirst_subset e' he')
      exact ⟨e, he, rfl, rfl⟩
  | none => rfl
  | linear base step => rfl
  | vshape base step center => rfl
  | modulo base step cycle => rfl

/-- The renamed action before it is put in order. -/
theorem Action.renamed_rename (a : Action) : a.Renamed f (a.rename f) := by
  cases a with
  | effect e => exact ⟨_, rfl, Effect.renamed_rename e⟩
  | startblock target params => exact ⟨_, rfl, Target.renamed_rename target⟩
  | sync => rfl
  | delay durationMs => rfl
  | offsetGroup target offset actions =>
    refine ⟨_, _, _, rfl, Target.renamed_rename target, OffsetBlock.renamed_rename offset, ?_⟩
    rw [List.forall₂_map_right_iff, List.forall₂_same]
    exact fun e _ => Effect.renamed_rename e

/-- A stored action that is accepted under its new ids is the renamed one. -/
theorem stored_accepted {a b : Action} (ha : a.Stored)
    (h : canonicalAction (a.rename f).toJson = .ok b) : a.Renamed f b := by
  rcases ha with ha | ⟨values, actions, rfl⟩
  · have hb := canonicalAction_toJson (ha.1.of_accepted h)
    cases hb.symm.trans h
    exact Action.renamed_normal a
  · have hrefused := canonicalAction_explicit_broadcast
      (keepFirst OffsetEntry.id [] (values.map (OffsetEntry.rename f))) (actions.map (Effect.rename f))
    cases hrefused.symm.trans h

/-- **A rewrite that ends well renames the references of every scene, whatever was stored.** -/
theorem rewriteScenes_follows {now : String} {scenes scenes' : List Scene} {count : Nat}
    (hscenes : ∀ scene ∈ scenes, scene.Sound)
    (h : rewriteScenes f now scenes = .ok (count, scenes')) :
    List.Forall₂ (Scene.Follows f) scenes scenes' ∧ (count = 0 → scenes' = scenes) := by
  induction scenes generalizing scenes' count with
  | nil =>
    cases h
    exact ⟨.nil, fun _ => rfl⟩
  | cons scene rest ih =>
    have hrest : ∀ scene ∈ rest, scene.Sound := fun s hs => hscenes s (List.mem_cons_of_mem _ hs)
    have hstored := (hscenes scene (List.mem_cons_self ..)).actions
    obtain ⟨hvalue, hsame⟩ := rewriteActions_eq (f := f) scene.actions
    unfold rewriteScenes at h
    cases hchanged : (rewriteActions f scene.actions).2 with
    | true =>
      simp only [hchanged, if_true, hvalue] at h
      obtain ⟨actions, hactions, h⟩ := bind_ok.mp h
      obtain ⟨⟨count', rest'⟩, hr, h⟩ := bind_ok.mp h
      cases h
      obtain ⟨hall, -⟩ := ih hrest hr
      refine ⟨.cons ⟨⟨actions, .str now, rfl⟩, ?_⟩ hall, fun h => absurd h (Nat.succ_ne_zero _)⟩
      have hmap := mapM_ok.mp (guard_ok.mp hactions).2
      rw [List.forall₂_map_left_iff, List.forall₂_map_left_iff] at hmap
      exact forall₂_imp_mem hmap fun a b ha hab => stored_accepted (hstored a ha) hab
    | false =>
      simp only [hchanged, Bool.false_eq_true, if_false] at h
      obtain ⟨⟨count', rest'⟩, hr, h⟩ := bind_ok.mp h
      cases h
      obtain ⟨hall, hzero⟩ := ih hrest hr
      refine ⟨.cons ⟨⟨scene.actions, scene.updated, rfl⟩, ?_⟩ hall, fun h => by rw [hzero h]⟩
      have hid := map_eq_self.mp (hsame hchanged)
      refine List.forall₂_same.mpr fun a ha => ?_
      have hrenamed := Action.renamed_rename (f := f) a
      rwa [hid a ha] at hrenamed

end Accepted

/-! ### The store -/

/-- The states of a store over any file, after any events. -/
def Lived (keyText : Key → String) (s : Service) : Prop :=
  ∃ (file : File) (events : List Event), s = events.foldl (Service.step keyText) (.fresh file)

/-- What holds of every store that was just made and is kept by every event holds of all of them. -/
theorem Lived.invariant {keyText : Key → String} {I : Service → Prop} (hstart : ∀ file, I (.fresh file))
    (hstep : ∀ s e, I s → I (s.step keyText e)) {s : Service} (h : Lived keyText s) : I s := by
  obtain ⟨file, events, rfl⟩ := h
  exact List.foldlRecOn events _ (hstart file) fun s hs e _ => hstep s e hs

theorem step_sound {keyText : Key → String} (s : Service) (e : Event) (hs : s.All Scene.Sound fun _ => True) :
    (s.step keyText e).All Scene.Sound fun _ => True := by
  obtain ⟨env, op⟩ := e
  cases op with
  | call call => exact after_all (sound_invariant keyText) hs (call_keeps_sound env call)
  | restart => exact ⟨fun _ h => (nomatch h), trivial⟩
  | replaceAll entries =>
    obtain ⟨hs', -⟩ := items_all (sound_invariant keyText) env.now hs
    refine andThen_state hs' fun scenes _ => ?_
    cases importEntries slugify (importScene env.now) [] (items env.now s).2.nextId entries with
    | mk answer nextId =>
      refine andThen_state ⟨hs'.cached, trivial⟩ fun imported _ => ?_
      unfold writeImported
      split
      · exact ⟨fun _ h => (nomatch h), trivial⟩
      · exact ⟨hs'.cached, trivial⟩

/-- Whatever happens, the scenes in memory are sound. -/
theorem Lived.sound {keyText : Key → String} {s : Service} (h : Lived keyText s) :
    s.All Scene.Sound fun _ => True :=
  h.invariant (I := fun s => s.All Scene.Sound fun _ => True) (fun _ => ⟨fun _ h => (nomatch h), trivial⟩) step_sound

/-- The outcome of a rewrite by `f`. One that raised left the store as it was. One that answered
renamed every scene: it changed none, or wrote them all, and the next `list` loads what it wrote. -/
def Rewritten (keyText : Key → String) (f : Int → Int) (env : Env) (s : Service)
    (outcome : Except PyError Nat × Service) : Prop :=
  match outcome with
  | (.error _, t) => Intact env.now s t
  | (.ok count, t) => ∃ old new, (items env.now s).1 = .ok old ∧
      List.Forall₂ (Scene.Follows f) old new ∧
      ((count = 0 ∧ new = old ∧ Intact env.now s t) ∨
        ∃ listed nextId, t.file = .doc ((payload nextId new).dump keyText) ∧
          (items env.now t).1 = .ok listed ∧ List.Forall₂ (Scene.Reloaded keyText) new listed)

/-- **A rewrite renames every scene, or leaves the store as it was.** -/
theorem rewriteReferences_rewritten {keyText : Key → String} {f : Int → Int} {env : Env} {s : Service}
    (hs : s.All Scene.Sound fun _ => True) :
    Rewritten keyText f env s (rewriteReferences f keyText env s) := by
  obtain ⟨-, hsound⟩ := items_all (sound_invariant keyText) env.now hs
  have hintact := items_intact env.now s
  unfold rewriteReferences
  cases hitems : items env.now s with
  | mk answer t =>
    rw [hitems] at hsound hintact
    cases answer with
    | error e => exact hintact
    | ok old =>
      rw [andThen_ok]
      cases hrewrite : rewriteScenes f env.now old with
      | error e => exact hintact
      | ok rewritten =>
        obtain ⟨count, new⟩ := rewritten
        obtain ⟨hall, hzero⟩ := rewriteScenes_follows (hsound old rfl) hrewrite
        rw [andThen_ok]
        by_cases hcount : count = 0
        · rw [if_pos hcount]
          exact ⟨old, new, congrArg Prod.fst hitems, hall, .inl ⟨rfl, hzero hcount, hintact⟩⟩
        · rw [if_neg hcount]
          unfold writeItems
          by_cases hwritable : env.writable = true
          · have hnew : ∀ scene ∈ new, scene.Sound := rewriteScenes_all (fun scene hscene actions h => by
              have hlist := canonicalActions_canonical h
              exact ⟨hlist.count, fun a ha => .inl (hlist.actions a ha), hscene.scope⟩) (hsound old rfl) hrewrite
            obtain ⟨listed, nextId, hload, hreloaded⟩ := load_payload keyText env.now t.nextId hnew
            rw [if_pos hwritable]
            refine ⟨old, new, congrArg Prod.fst hitems, hall, .inr ⟨listed, t.nextId, rfl, ?_, hreloaded⟩⟩
            show (items env.now ⟨.doc ((payload t.nextId new).dump keyText), none, t.nextId⟩).1 = _
            unfold items
            dsimp only
            rw [hload]
          · rw [if_neg hwritable]
            exact hintact

end RaceLink.Scenes
