import RaceLink.Scenes.Renumber

/-! Renaming the groups of a canonical action.

The ids of a target and the rows of an explicit table are de-duplicated by
separate loops, and the validator then asks for a table as long as the target.
The loops stay in step when the table has each of its groups once
(`Action.Distinct`), which the validator does not check: it compares lengths. -/
namespace RaceLink.Scenes
open Python Library

/-- No table of the action has two rows for a group. -/
def Action.Distinct : Action → Prop
  | .offsetGroup _ (.explicit values) _ => (values.map (·.id)).Nodup
  | _ => True

/-- The rule sends every id that a target can list to such an id. -/
def InRange (f : Int → Int) : Prop :=
  ∀ g, 0 ≤ g → g ≤ GROUP_ID_MAX → 0 ≤ f g ∧ f g ≤ GROUP_ID_MAX

/-! ### The two rules -/

theorem shiftGroupValue_inRange {deletedGid : Int} (hlo : 1 ≤ deletedGid) :
    InRange (shiftGroupValue deletedGid) := by
  intro g hg hmax
  simp only [shiftGroupValue, GROUP_ID_MAX] at *
  split
  · omega
  · split <;> omega

theorem mapGroupValue_inRange {mapping : List (Int × Int)}
    (hrange : ∀ e ∈ mapping, 0 ≤ e.2 ∧ e.2 ≤ GROUP_ID_MAX) : InRange (mapGroupValue mapping) := by
  intro g hg hmax
  unfold mapGroupValue
  cases h : mapping.lookup g with
  | none => exact ⟨hg, hmax⟩
  | some v =>
    obtain ⟨before, after, rfl, -⟩ := List.lookup_eq_some_iff.mp h
    exact hrange (g, v) (by simp)

/-! ### Renamed actions are valid -/

section Rename
variable {f : Int → Int}

theorem mem_renamed_ids {ids : List Int} {g : Int} :
    g ∈ keepFirst id [] (ids.map f) ↔ ∃ h ∈ ids, f h = g := by
  rw [mem_keepFirst_id, List.mem_map]

theorem ValidIds.rename {ids : List Int} (h : ValidIds ids) (hf : InRange f) :
    ValidIds (keepFirst id [] (ids.map f)) where
  nonempty := by
    obtain ⟨g, hg⟩ := List.exists_mem_of_ne_nil _ h.nonempty
    exact List.ne_nil_of_mem (mem_renamed_ids.mpr ⟨g, hg, rfl⟩)
  nodup := keepFirst_id_nodup
  range := fun g hg => by
    obtain ⟨g', hg', rfl⟩ := mem_renamed_ids.mp hg
    obtain ⟨hlo, hhi⟩ := h.range g' hg'
    exact hf g' hlo hhi

theorem Target.Valid.rename {t : Target} (h : t.Valid) (hf : InRange f) : (t.rename f).Valid := by
  cases t with
  | broadcast => trivial
  | groups value => exact ValidIds.rename h hf
  | device value => exact h

theorem Target.Within.rename {t parent : Target} (h : t.Within parent.groupIds) :
    (t.rename f).Within (parent.rename f).groupIds := by
  rintro groups hgroups value hvalue g hg
  cases parent with
  | broadcast => cases hgroups
  | device v => cases hgroups
  | groups ids =>
    cases t with
    | broadcast => cases hvalue
    | device v => cases hvalue
    | groups ids' =>
      cases hgroups
      cases hvalue
      obtain ⟨g', hg', rfl⟩ := mem_renamed_ids.mp hg
      exact mem_renamed_ids.mpr ⟨g', h ids rfl ids' rfl g' hg', rfl⟩

/-- A table with distinct rows has a row for each group of its container. -/
theorem Table.ids_perm {ids : List Int} {values : List OffsetEntry} (h : Table ids values)
    (hdistinct : (values.map (·.id)).Nodup) : (values.map (·.id)).Perm ids := by
  have hsub : (values.map (·.id)).Subperm ids := by
    refine List.subperm_of_subset hdistinct fun g hg => ?_
    obtain ⟨e, he, rfl⟩ := List.mem_map.mp hg
    exact (h.entries e he).id_mem
  exact hsub.perm_of_length_le (by rw [List.length_map, h.length])

theorem renamed_values_ids (values : List OffsetEntry) :
    (keepFirst OffsetEntry.id [] (values.map (OffsetEntry.rename f))).map (·.id) =
      keepFirst id [] ((values.map (·.id)).map f) := by
  rw [map_keepFirst, List.map_map, List.map_map]
  rfl

/-- **The two loops stay in step**: the table of the renamed container has one row for
each of its groups. -/
theorem Table.rename {ids : List Int} {values : List OffsetEntry} (h : Table ids values)
    (hdistinct : (values.map (·.id)).Nodup) (hf : InRange f) :
    Table (keepFirst id [] (ids.map f))
      (keepFirst OffsetEntry.id [] (values.map (OffsetEntry.rename f))) := by
  have hperm := h.ids_perm hdistinct
  have hsame : (keepFirst id [] ((values.map (·.id)).map f)).Perm (keepFirst id [] (ids.map f)) := by
    refine (List.perm_ext_iff_of_nodup keepFirst_id_nodup keepFirst_id_nodup).mpr fun g => ?_
    simp only [mem_renamed_ids, hperm.mem_iff]
  constructor
  · rw [← hsame.length_eq, ← renamed_values_ids, List.length_map]
  · intro e he
    obtain ⟨e', he', rfl⟩ := List.mem_map.mp (keepFirst_subset e he)
    have hold := h.entries e' he'
    exact ⟨hf e'.id hold.id_range.1 hold.id_range.2, mem_renamed_ids.mpr ⟨e'.id, hold.id_mem, rfl⟩,
      hold.offset_range⟩

theorem OffsetBlock.Valid.rename {t : Target} {b : OffsetBlock} (h : b.Valid t.groupIds)
    (hdistinct : ∀ values, b = .explicit values → (values.map (·.id)).Nodup) (hf : InRange f) :
    (b.rename f).Valid (t.rename f).groupIds := by
  cases b with
  | explicit values =>
    obtain ⟨ids, hids, htable⟩ := h
    cases t with
    | broadcast => cases hids
    | device v => cases hids
    | groups ids' =>
      cases hids
      exact ⟨_, rfl, htable.rename (hdistinct values rfl) hf⟩
  | none => trivial
  | linear base step => exact h
  | vshape base step center => exact h
  | modulo base step cycle => exact h

/-- **A renamed action is valid again**, provided its table has distinct rows. -/
theorem Action.Valid.rename {a : Action} (h : a.Valid) (hdistinct : a.Distinct) (hf : InRange f) :
    (a.rename f).Valid := by
  cases a with
  | effect e => exact Target.Valid.rename h hf
  | startblock target params => exact Target.Valid.rename h hf
  | sync => trivial
  | delay durationMs => exact h
  | offsetGroup target offset actions =>
    refine ⟨h.scope.rename hf, fun value hv => ?_, ?_, h.block.rename (fun values hv => ?_) hf,
      by simpa using h.count, fun e he => ?_⟩
    · cases target with
      | device v => exact h.not_device v rfl
      | broadcast => cases hv
      | groups ids => cases hv
    · have hentries := h.entries
      cases target with
      | groups ids =>
        refine le_trans ?_ hentries
        have hle : (keepFirst id [] (ids.map f)).length ≤ (ids.map f).length := length_keepFirst_le
        rwa [List.length_map] at hle
      | broadcast => exact Nat.zero_le _
      | device v => exact Nat.zero_le _
    · subst hv
      exact hdistinct
    · obtain ⟨e', he', rfl⟩ := List.mem_map.mp he
      have hold := h.children e' he'
      exact ⟨hold.target.rename hf, hold.within.rename⟩

theorem Target.rename_id (hf : ∀ g, f g = g) {t : Target} (h : t.Valid) : t.rename f = t := by
  cases t with
  | groups value =>
    have hmap : value.map f = value := map_eq_self.mpr fun g _ => hf g
    have hvalid : ValidIds value := h
    rw [Target.rename, hmap, keepFirst_eq_self (by simpa using hvalid.nodup) (by simp)]
  | _ => rfl

theorem OffsetBlock.rename_id (hf : ∀ g, f g = g) {b : OffsetBlock}
    (hdistinct : ∀ values, b = .explicit values → (values.map (·.id)).Nodup) : b.rename f = b := by
  cases b with
  | explicit values =>
    have hmap : values.map (OffsetEntry.rename f) = values :=
      map_eq_self.mpr fun e _ => by rw [OffsetEntry.rename, hf]
    rw [OffsetBlock.rename, hmap, keepFirst_eq_self (hdistinct values rfl) (by simp)]
  | _ => rfl

/-- The rule that moves no id leaves a valid action with distinct rows as it is. -/
theorem Action.rename_id (hf : ∀ g, f g = g) {a : Action} (h : a.Valid) (hdistinct : a.Distinct) :
    a.rename f = a := by
  cases a with
  | effect e => rw [Action.rename, Effect.rename, Target.rename_id hf h]
  | startblock target params => rw [Action.rename, Target.rename_id hf h]
  | sync => rfl
  | delay durationMs => rfl
  | offsetGroup target offset actions =>
    have hoffset : offset.rename f = offset := OffsetBlock.rename_id hf fun values hv => by
      subst hv
      exact hdistinct
    have hactions : actions.map (Effect.rename f) = actions := map_eq_self.mpr fun e he => by
      rw [Effect.rename, Target.rename_id hf (h.children e he).target]
    rw [Action.rename, Target.rename_id hf h.scope, hoffset, hactions]

theorem Action.Distinct.rename (a : Action) : (a.rename f).Distinct := by
  cases a with
  | offsetGroup target offset actions =>
    cases offset with
    | explicit values => exact keepFirst_nodup
    | _ => trivial
  | _ => trivial

end Rename

theorem Action.Distinct.normal {a : Action} (h : a.Distinct) : a.normal.Distinct := by
  cases a with
  | offsetGroup target offset actions =>
    cases offset with
    | explicit values =>
      exact (sortEntries_ids_perm values).nodup_iff.mpr h
    | _ => trivial
  | _ => trivial

/-! ### What a renaming is for

Stated without lists and their order: the references of the new action are the
images of the references of the old one. -/

section Image
variable (f : Int → Int)

def Target.Renamed : Target → Target → Prop
  | .groups ids, t => ∃ ids', t = .groups ids' ∧ ids'.Nodup ∧ ∀ g, g ∈ ids' ↔ ∃ h ∈ ids, f h = g
  | .broadcast, t => t = .broadcast
  | .device value, t => t = .device value

structure Effect.Renamed (e e' : Effect) : Prop where
  target : e.target.Renamed f e'.target
  kind : e'.kind = e.kind
  params : e'.params = e.params
  flags : e'.flagsOverride = e.flagsOverride

/-- The rows keep their offsets; of rows that fall together one stays. -/
def OffsetBlock.Renamed : OffsetBlock → OffsetBlock → Prop
  | .explicit values, b => ∃ values', b = .explicit values' ∧ (values'.map (·.id)).Nodup ∧
      (∀ g, g ∈ values'.map (·.id) ↔ ∃ h ∈ values.map (·.id), f h = g) ∧
      ∀ e' ∈ values', ∃ e ∈ values, f e.id = e'.id ∧ e.offsetMs = e'.offsetMs
  | b, b' => b' = b

def Action.Renamed : Action → Action → Prop
  | .effect e, a => ∃ e', a = .effect e' ∧ e.Renamed f e'
  | .startblock target params, a => ∃ target', a = .startblock target' params ∧ target.Renamed f target'
  | .sync, a => a = .sync
  | .delay durationMs, a => a = .delay durationMs
  | .offsetGroup target offset actions, a => ∃ target' offset' actions',
      a = .offsetGroup target' offset' actions' ∧ target.Renamed f target' ∧ offset.Renamed f offset' ∧
      List.Forall₂ (Effect.Renamed f) actions actions'

variable {f}

theorem Target.renamed_normal (t : Target) : t.Renamed f (t.rename f).normal := by
  cases t with
  | broadcast => rfl
  | device value => rfl
  | groups ids =>
    exact ⟨_, rfl, (sortIds_perm _).nodup_iff.mpr (keepFirst_id_nodup),
      fun g => mem_sortIds.trans mem_renamed_ids⟩

theorem Effect.renamed_normal (e : Effect) : e.Renamed f (e.rename f).normal :=
  ⟨Target.renamed_normal e.target, rfl, rfl, rfl⟩

theorem OffsetBlock.renamed_normal (b : OffsetBlock) : b.Renamed f (b.rename f).normal := by
  cases b with
  | explicit values =>
    have hperm := sortEntries_ids_perm
      (keepFirst OffsetEntry.id [] (values.map (OffsetEntry.rename f)))
    refine ⟨_, rfl, hperm.nodup_iff.mpr keepFirst_nodup, fun g => ?_, fun e' he' => ?_⟩
    · rw [hperm.mem_iff, renamed_values_ids, mem_renamed_ids]
    · obtain ⟨e, he, rfl⟩ := List.mem_map.mp (keepFirst_subset e' (mem_sortEntries.mp he'))
      exact ⟨e, he, rfl, rfl⟩
  | none => rfl
  | linear base step => rfl
  | vshape base step center => rfl
  | modulo base step cycle => rfl

/-- The renamed action, in order, is the one that a renaming asks for. -/
theorem Action.renamed_normal (a : Action) : a.Renamed f (a.rename f).normal := by
  cases a with
  | effect e => exact ⟨_, rfl, Effect.renamed_normal e⟩
  | startblock target params => exact ⟨_, rfl, Target.renamed_normal target⟩
  | sync => rfl
  | delay durationMs => rfl
  | offsetGroup target offset actions =>
    refine ⟨_, _, _, rfl, Target.renamed_normal target, OffsetBlock.renamed_normal offset, ?_⟩
    rw [List.map_map, List.forall₂_map_right_iff, List.forall₂_same]
    exact fun e _ => Effect.renamed_normal e

end Image

/-- In a canonical container the rows of a distinct table are, in order, its groups. -/
theorem table_ids_eq {ids : List Int} {values : List OffsetEntry} {actions : List Effect}
    (h : (Action.offsetGroup (.groups ids) (.explicit values) actions).Canonical)
    (hdistinct : (Action.offsetGroup (.groups ids) (.explicit values) actions).Distinct) :
    values.map (·.id) = ids := by
  obtain ⟨hvalid, hnormal⟩ := h
  obtain ⟨htarget, hoffset, -⟩ := Action.offsetGroup.inj hnormal
  obtain ⟨_, ⟨⟩, htable⟩ := hvalid.block
  have hids : ids.Pairwise (· ≤ ·) := by
    rw [← Target.groups.inj htarget]
    exact List.pairwise_insertionSort _ _
  have hrows : (values.map (·.id)).Pairwise (· ≤ ·) := by
    rw [← OffsetBlock.explicit.inj hoffset, List.pairwise_map]
    exact sortEntries_sorted values
  exact (htable.ids_perm hdistinct).eq_of_pairwise' hrows hids

end RaceLink.Scenes
