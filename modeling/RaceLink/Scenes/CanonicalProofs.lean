import RaceLink.Scenes.Canonical

/-! What the validator lets through and what it does with its own output.

`Action.Valid` says that the parts of an action are in range and fit each other,
`Action.normal` puts its id lists in order. A valid action is accepted and comes
out normal (`canonicalAction_toJson`), and whatever is accepted comes out valid
and normal (`canonicalAction_canonical`): the validator is idempotent, which is
what a reload of an untouched scene rests on. -/
namespace RaceLink.Scenes
open Python Domain Library

/-! ### The shape of stored actions -/

/-- What a groups target lists: some ids, each once, each addressable. -/
structure ValidIds (ids : List Int) : Prop where
  nonempty : ids ≠ []
  nodup : ids.Nodup
  range : ∀ g ∈ ids, 0 ≤ g ∧ g ≤ GROUP_ID_MAX

def Target.Valid : Target → Prop
  | .broadcast => True
  | .groups value => ValidIds value
  | .device value => isMac12 value = true

def Target.normal : Target → Target
  | .groups value => .groups (sortIds value)
  | target => target

/-- The groups of a child are among those of its container. -/
def Target.Within (t : Target) (parentGroups : Option (List Int)) : Prop :=
  ∀ groups, parentGroups = some groups → ∀ value, t = .groups value → ∀ g ∈ value, g ∈ groups

/-- A child that fits a container with these groups. -/
structure Effect.Valid (parentGroups : Option (List Int)) (e : Effect) : Prop where
  target : e.target.Valid
  within : e.target.Within parentGroups

def Effect.normal (e : Effect) : Effect := {e with target := e.target.normal}

/-- A row of an explicit table: its group is one of the container's. -/
structure OffsetEntry.Valid (groupIds : List Int) (e : OffsetEntry) : Prop where
  id_range : 0 ≤ e.id ∧ e.id ≤ GROUP_ID_MAX
  id_mem : e.id ∈ groupIds
  offset_range : OFFSET_MS_MIN ≤ e.offsetMs ∧ e.offsetMs ≤ OFFSET_MS_MAX

/-- An explicit table of a container. Nothing here says that an id is listed once. -/
structure Table (groupIds : List Int) (values : List OffsetEntry) : Prop where
  length : values.length = groupIds.length
  entries : ∀ e ∈ values, e.Valid groupIds

/-- `base_ms` and `step_ms` in their ranges. -/
def FormulaRange (base step : Int) : Prop :=
  (OFFSET_BASE_MIN ≤ base ∧ base ≤ OFFSET_BASE_MAX) ∧
    OFFSET_STEP_MIN ≤ step ∧ step ≤ OFFSET_STEP_MAX

def OffsetBlock.Valid (groupIds : Option (List Int)) : OffsetBlock → Prop
  | .none => True
  | .explicit values => ∃ ids, groupIds = some ids ∧ Table ids values
  | .linear base step => FormulaRange base step
  | .vshape base step center => FormulaRange base step ∧ 0 ≤ center ∧ center ≤ GROUP_ID_MAX
  | .modulo base step cycle =>
    FormulaRange base step ∧ OFFSET_CYCLE_MIN ≤ cycle ∧ cycle ≤ OFFSET_CYCLE_MAX

def OffsetBlock.normal : OffsetBlock → OffsetBlock
  | .explicit values => .explicit (sortEntries values)
  | block => block

/-- A container whose parts fit each other. -/
structure Container (target : Target) (offset : OffsetBlock) (actions : List Effect) : Prop where
  scope : target.Valid
  not_device : ∀ value, target ≠ .device value
  entries : (target.groupIds.getD []).length ≤ MAX_GROUPS_OFFSET_ENTRIES
  block : offset.Valid target.groupIds
  count : actions.length ≤ MAX_OFFSET_GROUP_CHILDREN
  children : ∀ e ∈ actions, e.Valid target.groupIds

def Action.Valid : Action → Prop
  | .effect e => e.target.Valid
  | .startblock target _ => target.Valid
  | .sync => True
  | .delay durationMs => 0 ≤ durationMs ∧ durationMs ≤ MAX_DELAY_MS
  | .offsetGroup target offset actions => Container target offset actions

def Action.normal : Action → Action
  | .effect e => .effect e.normal
  | .startblock target params => .startblock target.normal params
  | .sync => .sync
  | .delay durationMs => .delay durationMs
  | .offsetGroup target offset actions =>
    .offsetGroup target.normal offset.normal (actions.map Effect.normal)

/-- The shape the validator gives: valid, and in order. -/
def Action.Canonical (a : Action) : Prop := a.Valid ∧ a.normal = a

/-- A canonical action list. -/
structure CanonicalList (actions : List Action) : Prop where
  count : actions.length ≤ MAX_ACTIONS_PER_SCENE
  actions : ∀ a ∈ actions, a.Canonical

/-! ### Order -/

theorem mem_sortIds {ids : List Int} {g : Int} : g ∈ sortIds ids ↔ g ∈ ids := List.mem_insertionSort _

theorem sortIds_perm (ids : List Int) : (sortIds ids).Perm ids := List.perm_insertionSort _ _

theorem sortIds_idem (ids : List Int) : sortIds (sortIds ids) = sortIds ids :=
  List.Pairwise.insertionSort_eq (List.pairwise_insertionSort _ _)

theorem ValidIds.sorted {ids : List Int} (h : ValidIds ids) : ValidIds (sortIds ids) where
  nonempty := fun hnil => h.nonempty (by simpa [hnil] using (sortIds_perm ids).symm)
  nodup := (sortIds_perm ids).nodup_iff.mpr h.nodup
  range := fun g hg => h.range g (mem_sortIds.mp hg)

theorem Target.Valid.normal {t : Target} (h : t.Valid) : t.normal.Valid := by
  cases t with
  | broadcast => trivial
  | groups value => exact ValidIds.sorted h
  | device value => exact h

theorem Target.groupIds_normal (t : Target) : t.normal.groupIds = t.groupIds.map sortIds := by
  cases t <;> rfl

/-- Order does not matter for what is a member. -/
theorem Target.within_normal {t : Target} {parentGroups : Option (List Int)} :
    t.normal.Within (parentGroups.map sortIds) ↔ t.Within parentGroups := by
  cases t with
  | broadcast => simp [Target.Within, Target.normal]
  | device value => simp [Target.Within, Target.normal]
  | groups value =>
    cases parentGroups with
    | none => simp [Target.Within]
    | some groups => simp [Target.Within, Target.normal, mem_sortIds]

theorem mem_sortEntries {values : List OffsetEntry} {e : OffsetEntry} :
    e ∈ sortEntries values ↔ e ∈ values := List.mem_insertionSort _

theorem sortEntries_ids_perm (values : List OffsetEntry) :
    ((sortEntries values).map (·.id)).Perm (values.map (·.id)) :=
  (List.perm_insertionSort _ values).map _

theorem sortEntries_sorted (values : List OffsetEntry) :
    (sortEntries values).Pairwise (·.id ≤ ·.id) := by
  have : IsTrans OffsetEntry fun a b => a.id ≤ b.id := ⟨fun _ _ _ => Int.le_trans⟩
  have : Std.Total fun a b : OffsetEntry => a.id ≤ b.id := ⟨fun a b => Int.le_total a.id b.id⟩
  exact List.pairwise_insertionSort _ values

theorem sortEntries_idem (values : List OffsetEntry) :
    sortEntries (sortEntries values) = sortEntries values :=
  List.Pairwise.insertionSort_eq (sortEntries_sorted values)

theorem OffsetEntry.Valid.mono {ids ids' : List Int} {e : OffsetEntry} (h : e.Valid ids)
    (hmem : ∀ g ∈ ids, g ∈ ids') : e.Valid ids' :=
  ⟨h.id_range, hmem _ h.id_mem, h.offset_range⟩

theorem Table.normal {ids : List Int} {values : List OffsetEntry} (h : Table ids values) :
    Table (sortIds ids) (sortEntries values) := by
  refine ⟨?_, fun e he => ?_⟩
  · rw [sortEntries, sortIds, List.length_insertionSort, List.length_insertionSort, h.length]
  · exact (h.entries e (mem_sortEntries.mp he)).mono fun g hg => mem_sortIds.mpr hg

@[simp] theorem toIntOr_int (err : PyError) (n : Int) : (Json.int n).toIntOr err = .ok n := rfl

/-! ### Targets -/

/-- The ids taken so far stay in front, and the new ones are distinct and in range. -/
theorem collectGroupIds_ok {ids out : List Int} {raw : List Json}
    (h : collectGroupIds ids raw = .ok out) (hnodup : ids.Nodup)
    (hrange : ∀ g ∈ ids, 0 ≤ g ∧ g ≤ GROUP_ID_MAX) :
    out.Nodup ∧ (∀ g ∈ out, 0 ≤ g ∧ g ≤ GROUP_ID_MAX) ∧ out.length = ids.length + raw.length := by
  induction raw generalizing ids with
  | nil =>
    cases h
    exact ⟨hnodup, hrange, rfl⟩
  | cons entry rest ih =>
    obtain ⟨v, -, h⟩ := bind_ok.mp h
    obtain ⟨hbound, h⟩ := guard_ok.mp h
    obtain ⟨hnew, h⟩ := guard_ok.mp h
    have hids : (ids ++ [v]).Nodup := by
      rw [List.nodup_append]
      exact ⟨hnodup, List.nodup_singleton v, fun a ha b hb => by
        rw [List.mem_singleton.mp hb]
        exact fun hab => hnew (hab ▸ ha)⟩
    have hids' : ∀ g ∈ ids ++ [v], 0 ≤ g ∧ g ≤ GROUP_ID_MAX := by
      intro g hg
      rcases List.mem_append.mp hg with hg | hg
      · exact hrange g hg
      · rw [List.mem_singleton.mp hg]
        omega
    obtain ⟨hout, hbounds, hlength⟩ := ih h hids hids'
    refine ⟨hout, hbounds, ?_⟩
    rw [hlength]
    simp only [List.length_append, List.length_cons, List.length_nil]
    omega

/-- Distinct ids in range are all taken. -/
theorem collectGroupIds_ints {ids new : List Int} (hnodup : (ids ++ new).Nodup)
    (hrange : ∀ g ∈ new, 0 ≤ g ∧ g ≤ GROUP_ID_MAX) :
    collectGroupIds ids (new.map .int) = .ok (ids ++ new) := by
  induction new generalizing ids with
  | nil => simp [collectGroupIds]
  | cons v rest ih =>
    have hv := hrange v (List.mem_cons_self ..)
    have hnew : v ∉ ids := fun hmem =>
      (List.nodup_append.mp hnodup).2.2 v hmem v (List.mem_cons_self ..) rfl
    have hrest : collectGroupIds (ids ++ [v]) (rest.map .int) = .ok (ids ++ [v] ++ rest) :=
      ih (by simpa using hnodup) fun g hg => hrange g (List.mem_cons_of_mem _ hg)
    simp only [List.map_cons, collectGroupIds, toIntOr_int, ok_bind]
    rw [if_neg (by omega), if_neg hnew, hrest]
    simp

theorem hexDigit_fixed {c : Char} (h : ('0' ≤ c ∧ c ≤ '9') ∨ ('A' ≤ c ∧ c ≤ 'F')) :
    isSpace c = false ∧ upperChar c = [c] := by
  have hc : (48 ≤ c.toNat ∧ c.toNat ≤ 57) ∨ (65 ≤ c.toNat ∧ c.toNat ≤ 70) := h
  refine ⟨?_, ?_⟩
  · simp [isSpace]
    omega
  · have hlow : ¬ ('a' ≤ c ∧ c ≤ 'z') := fun hl => by
      have : 97 ≤ c.toNat := hl.1
      omega
    rw [upperChar, if_neg hlow, if_neg (by omega)]

theorem mac12_fixed {v : String} (h : isMac12 v = true) : upper (strip v) = v := by
  have hchars : ∀ c ∈ v.toList, isSpace c = false ∧ upperChar c = [c] := by
    intro c hc
    simp only [isMac12, Bool.and_eq_true, List.all_eq_true, Bool.or_eq_true,
      decide_eq_true_eq] at h
    exact hexDigit_fixed (h.2 c hc)
  rw [strip_of_no_space fun c hc => (hchars c hc).1, upper_of_fixed fun c hc => (hchars c hc).2]

/-- An accepted target is valid and in order. -/
theorem canonicalTarget_ok {raw : Json} {t : Target} (h : canonicalTarget raw = .ok t) :
    t.Valid ∧ t.normal = t := by
  obtain ⟨raw', -, h⟩ := bind_ok.mp h
  split at h
  case h_2 => cases h
  split at h
  · cases h
    exact ⟨trivial, rfl⟩
  · split at h
    case h_2 => cases h
    obtain ⟨ids, hids, h⟩ := bind_ok.mp h
    cases h
    obtain ⟨hnodup, hrange, hlength⟩ := collectGroupIds_ok hids List.nodup_nil (by simp)
    have hvalid : ValidIds ids := ⟨fun hnil => by simp [hnil] at hlength, hnodup, hrange⟩
    exact ⟨hvalid.sorted, congrArg Target.groups (sortIds_idem ids)⟩
  · split at h
    case h_2 => cases h
    dsimp only at h
    split at h
    case isFalse => cases h
    case isTrue hmac =>
      cases h
      exact ⟨hmac, rfl⟩
  · cases h

theorem canonicalTarget_toJson {t : Target} (h : t.Valid) :
    canonicalTarget t.toJson = .ok t.normal := by
  cases t with
  | broadcast => rfl
  | groups value =>
    obtain ⟨v, rest, rfl⟩ := List.exists_cons_of_ne_nil h.nonempty
    have hids : collectGroupIds [] ((v :: rest).map .int) = .ok ([] ++ v :: rest) :=
      collectGroupIds_ints h.nodup h.range
    show (do
      let ids ← collectGroupIds [] ((v :: rest).map .int)
      Except.ok (Target.groups (sortIds ids))) = _
    rw [hids, List.nil_append, ok_bind]
    rfl
  | device value =>
    have hmac : isMac12 value = true := h
    simp [canonicalTarget, migrateLegacyTarget, Target.toJson, Target.normal, dict, Dict.get,
      mac12_fixed hmac, hmac]

theorem containerTarget_ok {raw : Json} {t : Target} :
    canonicalOffsetGroupContainerTarget raw = .ok t ↔
      canonicalTarget raw = .ok t ∧ ∀ value, t ≠ .device value := by
  rw [canonicalOffsetGroupContainerTarget, bind_ok]
  constructor
  · rintro ⟨t', ht, h⟩
    cases t' with
    | device value => cases h
    | broadcast =>
      cases h
      exact ⟨ht, by simp⟩
    | groups value =>
      cases h
      exact ⟨ht, by simp⟩
  · rintro ⟨ht, hdev⟩
    refine ⟨t, ht, ?_⟩
    cases t with
    | device value => exact absurd rfl (hdev value)
    | broadcast => rfl
    | groups value => rfl

theorem checkSubset_ok {parentGroups ids : List Int} :
    checkSubset parentGroups ids = .ok () ↔ ∀ g ∈ ids, g ∈ parentGroups := by
  induction ids with
  | nil => simp [checkSubset]
  | cons v rest ih =>
    rw [checkSubset, guard_ok, ih]
    simp

theorem childTarget_ok {parentGroups : Option (List Int)} {raw : Json} {t : Target} :
    canonicalOffsetGroupChildTarget parentGroups raw = .ok t ↔
      canonicalTarget raw = .ok t ∧ t.Within parentGroups := by
  rw [canonicalOffsetGroupChildTarget, bind_ok]
  constructor
  · rintro ⟨t', ht, h⟩
    split at h
    · next value groups =>
      obtain ⟨_, hsub, h⟩ := bind_ok.mp h
      cases h
      refine ⟨ht, ?_⟩
      rintro _ ⟨⟩ _ ⟨⟩
      exact checkSubset_ok.mp hsub
    · next hno =>
      cases h
      exact ⟨ht, fun groups hg value hv => (hno value groups hv hg).elim⟩
  · rintro ⟨ht, hwithin⟩
    refine ⟨t, ht, ?_⟩
    split
    · next value groups =>
      rw [checkSubset_ok.mpr (hwithin groups rfl value rfl), ok_bind]
    · rfl

/-! ### Effects -/

theorem canonicalFlagsOverride_toJson (o : FlagsOverride) :
    canonicalFlagsOverride o.toJson = .ok o := by
  obtain ⟨a, b, c, d⟩ := o
  cases a <;> cases b <;> cases c <;> cases d <;>
    simp [canonicalFlagsOverride, FlagsOverride.toJson, flagField, dict, Json.orElse, Json.truthy,
      flagOf, UserFlag.key]

theorem effectKind?_name (kind : EffectKind) : effectKind? (.str kind.name) = some kind := by
  cases kind <;> rfl

theorem child_ok {parentGroups : Option (List Int)} {raw : Json} {e : Effect}
    (h : canonicalOffsetGroupChild parentGroups raw = .ok e) :
    e.Valid parentGroups ∧ e.normal = e := by
  unfold canonicalOffsetGroupChild at h
  split at h
  case h_2 => cases h
  split at h
  case h_1 => cases h
  obtain ⟨-, h⟩ := guard_ok.mp h
  obtain ⟨target, htarget, h⟩ := bind_ok.mp h
  obtain ⟨params, -, h⟩ := bind_ok.mp h
  obtain ⟨flags, -, h⟩ := bind_ok.mp h
  cases h
  obtain ⟨hraw, hwithin⟩ := childTarget_ok.mp htarget
  obtain ⟨hvalid, hnormal⟩ := canonicalTarget_ok hraw
  exact ⟨⟨hvalid, hwithin⟩, by rw [Effect.normal, hnormal]⟩

theorem child_toJson {parentGroups : Option (List Int)} {e : Effect} (h : e.Valid parentGroups) :
    canonicalOffsetGroupChild (parentGroups.map sortIds) e.toJson = .ok e.normal := by
  have htarget : canonicalOffsetGroupChildTarget (parentGroups.map sortIds) e.target.toJson =
      .ok e.target.normal :=
    childTarget_ok.mpr ⟨canonicalTarget_toJson h.target, Target.within_normal.mpr h.within⟩
  simp [canonicalOffsetGroupChild, Effect.toJson, Effect.normal, dict, Dict.get, Dict.has,
    effectKind?_name, htarget, canonicalParams, canonicalFlagsOverride_toJson]

/-! ### Offset blocks -/

theorem validateInt_ok {name : String} {raw : Json} {lo hi v : Int}
    (h : validateInt name raw lo hi = .ok v) : lo ≤ v ∧ v ≤ hi := by
  obtain ⟨v', -, h⟩ := bind_ok.mp h
  obtain ⟨hbound, h⟩ := guard_ok.mp h
  cases h
  omega

theorem toIntOr_ok {err : PyError} {raw : Json} {v : Int} (h : raw.toIntOr err = .ok v) :
    raw.toInt = .ok v := by
  unfold Json.toIntOr at h
  split at h
  · next heq => rw [heq, h]
  · cases h
  · cases h

theorem validateInt_toInt {name : String} {raw : Json} {lo hi v : Int}
    (h : validateInt name raw lo hi = .ok v) : raw.toInt = .ok v := by
  obtain ⟨v', hv, h⟩ := bind_ok.mp h
  obtain ⟨-, h⟩ := guard_ok.mp h
  cases h
  exact toIntOr_ok hv

theorem validateInt_int {name : String} {lo hi v : Int} (h : lo ≤ v ∧ v ≤ hi) :
    validateInt name (.int v) lo hi = .ok v := by
  rw [validateInt, toIntOr_int, ok_bind, if_neg (by omega)]

theorem entry_ok {ids : List Int} {raw : Json} {e : OffsetEntry}
    (h : canonicalOffsetEntry ids raw = .ok e) : e.Valid ids := by
  unfold canonicalOffsetEntry at h
  split at h
  case h_2 => cases h
  obtain ⟨gid, hgid, h⟩ := bind_ok.mp h
  obtain ⟨hmem, h⟩ := guard_ok.mp h
  obtain ⟨ms, hms, h⟩ := bind_ok.mp h
  cases h
  exact ⟨validateInt_ok hgid, not_not.mp hmem, validateInt_ok hms⟩

theorem entry_toJson {ids : List Int} {e : OffsetEntry} (h : e.Valid ids) :
    canonicalOffsetEntry ids e.toJson = .ok e := by
  simp [canonicalOffsetEntry, OffsetEntry.toJson, dict, Dict.get, validateInt_int h.id_range,
    h.id_mem, validateInt_int h.offset_range]

/-- The rows of a validated table are the validated rows. -/
theorem table_ok {ids : List Int} {raw : List Json} {values : List OffsetEntry}
    (hlength : raw.length = ids.length) (h : raw.mapM (canonicalOffsetEntry ids) = .ok values) :
    Table ids (sortEntries values) := by
  have hall := mapM_ok.mp h
  refine ⟨?_, fun e he => ?_⟩
  · rw [sortEntries, List.length_insertionSort, ← hall.length_eq, hlength]
  · obtain ⟨r, -, hr⟩ := exists_of_forall₂_right hall (mem_sortEntries.mp he)
    exact entry_ok hr

theorem baseAndStep_ok {block : Dict} {base step : Int}
    (h : canonicalOffsetBlock.baseAndStep block = .ok (base, step)) : FormulaRange base step := by
  obtain ⟨b, hb, h⟩ := bind_ok.mp h
  obtain ⟨s, hs, h⟩ := bind_ok.mp h
  cases h
  exact ⟨validateInt_ok hb, validateInt_ok hs⟩

theorem offsetBlock_ok {groupIds : Option (List Int)} {raw : Json} {block : OffsetBlock}
    (h : canonicalOffsetBlock groupIds raw = .ok block) :
    block.Valid groupIds ∧ block.normal = block := by
  unfold canonicalOffsetBlock at h
  split at h
  case h_2 => cases h
  split at h
  · cases h
    exact ⟨trivial, rfl⟩
  · split at h
    case h_1 => cases h
    next ids =>
      split at h
      case h_2 => cases h
      obtain ⟨hlength, h⟩ := guard_ok.mp h
      obtain ⟨values, hvalues, h⟩ := bind_ok.mp h
      cases h
      exact ⟨⟨ids, rfl, table_ok (not_not.mp hlength) hvalues⟩,
        congrArg OffsetBlock.explicit (sortEntries_idem values)⟩
  · obtain ⟨⟨base, step⟩, hbase, h⟩ := bind_ok.mp h
    cases h
    exact ⟨baseAndStep_ok hbase, rfl⟩
  · obtain ⟨⟨base, step⟩, hbase, h⟩ := bind_ok.mp h
    obtain ⟨center, hcenter, h⟩ := bind_ok.mp h
    cases h
    exact ⟨⟨baseAndStep_ok hbase, validateInt_ok hcenter⟩, rfl⟩
  · obtain ⟨⟨base, step⟩, hbase, h⟩ := bind_ok.mp h
    obtain ⟨cycle, hcycle, h⟩ := bind_ok.mp h
    cases h
    exact ⟨⟨baseAndStep_ok hbase, validateInt_ok hcycle⟩, rfl⟩
  · cases h

theorem offsetBlock_toJson {groupIds : Option (List Int)} {block : OffsetBlock}
    (h : block.Valid groupIds) :
    canonicalOffsetBlock (groupIds.map sortIds) block.toJson = .ok block.normal := by
  cases block with
  | none => rfl
  | explicit values =>
    obtain ⟨ids, rfl, htable⟩ := h
    have hlength : values.length = (sortIds ids).length := by
      rw [htable.length, (sortIds_perm ids).length_eq]
    have hvalues := mapM_self values fun e he =>
      entry_toJson ((htable.entries e he).mono fun g hg => mem_sortIds.mpr hg)
    simp [canonicalOffsetBlock, OffsetBlock.toJson, OffsetBlock.normal, dict, Dict.get, hlength,
      hvalues, -List.mapM_map]
  | linear base step =>
    simp [canonicalOffsetBlock, canonicalOffsetBlock.baseAndStep, OffsetBlock.toJson,
      OffsetBlock.normal, dict, Dict.get, Dict.getD, validateInt_int h.1, validateInt_int h.2]
  | vshape base step center =>
    simp [canonicalOffsetBlock, canonicalOffsetBlock.baseAndStep, OffsetBlock.toJson,
      OffsetBlock.normal, dict, Dict.get, Dict.getD, validateInt_int h.1.1, validateInt_int h.1.2,
      validateInt_int h.2]
  | modulo base step cycle =>
    simp [canonicalOffsetBlock, canonicalOffsetBlock.baseAndStep, OffsetBlock.toJson,
      OffsetBlock.normal, dict, Dict.get, Dict.getD, validateInt_int h.1.1, validateInt_int h.1.2,
      validateInt_int h.2]

/-! ### Actions -/

/-- What an accepted container went through. -/
theorem offsetGroup_ok {raw : Dict} {a : Action} (h : canonicalOffsetGroupAction raw = .ok a) :
    ∃ targetRaw target offset rawChildren children, a = .offsetGroup target offset children ∧
      containerTargetRaw raw = .ok targetRaw ∧ canonicalTarget targetRaw = .ok target ∧
      (∀ value, target ≠ .device value) ∧
      (target.groupIds.getD []).length ≤ MAX_GROUPS_OFFSET_ENTRIES ∧
      canonicalOffsetBlock target.groupIds (Dict.get raw "offset") = .ok offset ∧
      (Dict.get raw "actions").orElse (.arr []) = .arr rawChildren ∧
      rawChildren.length ≤ MAX_OFFSET_GROUP_CHILDREN ∧
      List.Forall₂ (fun r c => canonicalOffsetGroupChild target.groupIds r = .ok c)
        rawChildren children := by
  obtain ⟨targetRaw, hraw, h⟩ := bind_ok.mp h
  obtain ⟨target, htarget, h⟩ := bind_ok.mp h
  obtain ⟨hentries, h⟩ := guard_ok.mp h
  obtain ⟨offset, hoffset, h⟩ := bind_ok.mp h
  split at h
  case h_2 => cases h
  next rawChildren hchildrenRaw =>
    obtain ⟨hcount, h⟩ := guard_ok.mp h
    obtain ⟨children, hchildren, h⟩ := bind_ok.mp h
    cases h
    obtain ⟨hcanonical, hdev⟩ := containerTarget_ok.mp htarget
    exact ⟨targetRaw, target, offset, rawChildren, children, rfl, hraw, hcanonical, hdev,
      by omega, hoffset, hchildrenRaw, by omega, mapM_ok.mp hchildren⟩

theorem offsetGroup_canonical {raw : Dict} {a : Action} (h : canonicalOffsetGroupAction raw = .ok a) :
    a.Canonical := by
  obtain ⟨_, target, offset, rawChildren, children, rfl, -, htarget, hdev, hentries, hoffset, -,
    hcount, hall⟩ := offsetGroup_ok h
  obtain ⟨hvalid, hnormal⟩ := canonicalTarget_ok htarget
  obtain ⟨hblock, hblocknormal⟩ := offsetBlock_ok hoffset
  have hchildren : ∀ e ∈ children, e.Valid target.groupIds ∧ e.normal = e := fun e he => by
    obtain ⟨r, -, hr⟩ := exists_of_forall₂_right hall he
    exact child_ok hr
  refine ⟨⟨hvalid, hdev, hentries, hblock, by rw [← hall.length_eq]; exact hcount,
    fun e he => (hchildren e he).1⟩, ?_⟩
  rw [Action.normal, hnormal, hblocknormal, map_eq_self.mpr fun e he => (hchildren e he).2]

theorem refuseStray_ok {what : String} {raw : Dict} {strays : List String} :
    refuseStray what raw strays = .ok () ↔ ∀ stray ∈ strays, raw.has stray = false := by
  induction strays with
  | nil => simp [refuseStray]
  | cons stray rest ih =>
    rw [refuseStray, guard_ok, ih]
    simp

theorem requiredTarget_ok {raw : Dict} {t : Target} (h : requiredTarget raw = .ok t) :
    t.Valid ∧ t.normal = t :=
  canonicalTarget_ok (guard_ok.mp h).2

theorem modernAction_canonical {raw : Dict} {a : Action} (h : canonicalModernAction raw = .ok a) :
    a.Canonical := by
  have heffect : ∀ {kind}, canonicalEffectAction kind raw = .ok a → a.Canonical := by
    intro kind h
    obtain ⟨target, htarget, h⟩ := bind_ok.mp h
    obtain ⟨params, -, h⟩ := bind_ok.mp h
    obtain ⟨flags, -, h⟩ := bind_ok.mp h
    cases h
    obtain ⟨hvalid, hnormal⟩ := requiredTarget_ok htarget
    exact ⟨hvalid, by rw [Action.normal, Effect.normal, hnormal]⟩
  unfold canonicalModernAction at h
  split at h
  · obtain ⟨-, -, h⟩ := bind_ok.mp h
    exact offsetGroup_canonical h
  · obtain ⟨dur, -, h⟩ := bind_ok.mp h
    obtain ⟨hbound, h⟩ := guard_ok.mp h
    obtain ⟨-, -, h⟩ := bind_ok.mp h
    cases h
    exact ⟨⟨by omega, by omega⟩, rfl⟩
  · obtain ⟨-, -, h⟩ := bind_ok.mp h
    cases h
    exact ⟨trivial, rfl⟩
  · exact heffect h
  · exact heffect h
  · exact heffect h
  · obtain ⟨target, htarget, h⟩ := bind_ok.mp h
    obtain ⟨params, -, h⟩ := bind_ok.mp h
    cases h
    obtain ⟨hvalid, hnormal⟩ := requiredTarget_ok htarget
    exact ⟨hvalid, by rw [Action.normal, hnormal]⟩
  · cases h

/-- **Whatever the validator accepts comes out canonical.** -/
theorem canonicalAction_canonical {raw : Json} {a : Action} (h : canonicalAction raw = .ok a) :
    a.Canonical := by
  unfold canonicalAction at h
  split at h
  case h_2 => cases h
  obtain ⟨modern, -, h⟩ := bind_ok.mp h
  exact modernAction_canonical h

/-- No stored target is one of the removed shape. -/
theorem target_not_legacy (t : Target) (fields : Dict) (h : Dict.get fields "target" = t.toJson) :
    isLegacyGroupsOffsetTarget fields = false := by
  rw [isLegacyGroupsOffsetTarget, h]
  cases t <;> simp [Target.toJson, dict, Dict.get]

theorem canonicalAction_of_modern {fields : Dict} (h : isLegacyGroupsOffsetTarget fields = false) :
    canonicalAction (.obj fields) = canonicalModernAction fields := by
  rw [canonicalAction, modernAction, if_neg (by simp [h]), ok_bind]

/-- What is stored of an effect is checked as it is. -/
theorem effect_unmigrated (e : Effect) : canonicalAction e.toJson =
    canonicalModernAction [(.str "kind", .str e.kind.name), (.str "target", e.target.toJson),
      (.str "params", .obj e.params), (.str "flags_override", e.flagsOverride.toJson)] := by
  apply canonicalAction_of_modern
  exact target_not_legacy e.target _ (by simp [Dict.get])

theorem startblock_unmigrated (t : Target) (params : Dict) : canonicalAction (Action.startblock t params).toJson =
    canonicalModernAction [(.str "kind", .str "startblock"), (.str "target", t.toJson),
      (.str "params", .obj params)] := by
  apply canonicalAction_of_modern
  exact target_not_legacy t _ (by simp [Dict.get])

theorem container_unmigrated (t : Target) (offset : OffsetBlock) (actions : List Effect) :
    canonicalAction (Action.offsetGroup t offset actions).toJson =
      canonicalModernAction [(.str "kind", .str "offset_group"), (.str "target", t.toJson),
        (.str "offset", offset.toJson), (.str "actions", .arr (actions.map Effect.toJson))] := by
  apply canonicalAction_of_modern
  exact target_not_legacy t _ (by simp [Dict.get])

/-- The target of a stored container is read from its own field. -/
theorem containerTargetRaw_stored (t : Target) (offset : OffsetBlock) (actions : List Effect) :
    containerTargetRaw [(.str "kind", .str "offset_group"), (.str "target", t.toJson),
      (.str "offset", offset.toJson), (.str "actions", .arr (actions.map Effect.toJson))] = .ok t.toJson := by
  cases t <;> simp [containerTargetRaw, Dict.get, Target.toJson, dict]

theorem effect_toJson {e : Effect} (h : e.target.Valid) :
    canonicalAction e.toJson = .ok (.effect e.normal) := by
  have hflags := canonicalFlagsOverride_toJson e.flagsOverride
  have htarget := canonicalTarget_toJson h
  rw [effect_unmigrated]
  obtain ⟨kind, target, params, flags⟩ := e
  cases kind <;>
    simp_all [canonicalModernAction, canonicalEffectAction, requiredTarget, canonicalParams,
      Effect.normal, EffectKind.name, Dict.get, Dict.has]

theorem startblock_toJson {t : Target} (params : Dict) (h : t.Valid) :
    canonicalAction (Action.startblock t params).toJson = .ok (.startblock t.normal params) := by
  rw [startblock_unmigrated]
  simp [canonicalModernAction, canonicalStartblockAction, requiredTarget, canonicalParams,
    Dict.get, Dict.has, canonicalTarget_toJson h]

/-- A container goes through its own check of target, offset and children. -/
theorem canonicalAction_offsetGroup {t : Target} (hscope : t.Valid)
    (hdev : ∀ value, t ≠ .device value) (offset : OffsetBlock) (actions : List Effect) :
    canonicalAction (Action.offsetGroup t offset actions).toJson =
      (if (t.normal.groupIds.getD []).length > MAX_GROUPS_OFFSET_ENTRIES then
        .error (.valueError "offset_group has %s entries; max is 64"
          [.int (t.normal.groupIds.getD []).length])
      else do
        let offset ← canonicalOffsetBlock t.normal.groupIds offset.toJson
        if actions.length > MAX_OFFSET_GROUP_CHILDREN then
          .error (.valueError "offset_group has %s children; max is 16" [.int actions.length])
        else do
          let children ← (actions.map Effect.toJson).mapM
            (canonicalOffsetGroupChild t.normal.groupIds)
          .ok (.offsetGroup t.normal offset children)) := by
  have hraw := containerTargetRaw_stored t offset actions
  have htarget : canonicalOffsetGroupContainerTarget t.toJson = .ok t.normal :=
    containerTarget_ok.mpr ⟨canonicalTarget_toJson hscope, fun value hv => by
      cases t with
      | device v => exact hdev v rfl
      | broadcast => cases hv
      | groups ids => cases hv⟩
  have hactions : (Json.arr (actions.map Effect.toJson)).orElse (.arr []) =
      .arr (actions.map Effect.toJson) := by
    cases actions <;> simp [Json.orElse, Json.truthy]
  rw [container_unmigrated]
  simp [canonicalModernAction, refuseStray, Dict.has, Dict.get, canonicalOffsetGroupAction, hraw,
    htarget, hactions, -List.mapM_map]

/-- **A valid action is accepted, and comes out in order.** -/
theorem canonicalAction_toJson {a : Action} (h : a.Valid) : canonicalAction a.toJson = .ok a.normal := by
  cases a with
  | effect e => exact effect_toJson h
  | startblock target params => exact startblock_toJson params h
  | sync => rfl
  | delay durationMs =>
    have hbound : 0 ≤ durationMs ∧ durationMs ≤ MAX_DELAY_MS := h
    simp [canonicalAction, modernAction, isLegacyGroupsOffsetTarget, Action.toJson, Action.normal,
      dict, Dict.get, canonicalModernAction, canonicalDelayAction, Dict.getD, refuseStray, Dict.has]
    omega
  | offsetGroup target offset actions =>
    have hentries : (target.normal.groupIds.getD []).length ≤ MAX_GROUPS_OFFSET_ENTRIES := by
      have := h.entries
      cases target with
      | groups value => rwa [Target.normal, Target.groupIds, Option.getD_some, sortIds,
          List.length_insertionSort]
      | broadcast => exact Nat.zero_le _
      | device value => exact Nat.zero_le _
    have hblock := offsetBlock_toJson h.block
    have hchildren : (actions.map Effect.toJson).mapM
        (canonicalOffsetGroupChild (target.groupIds.map sortIds)) = .ok (actions.map Effect.normal) :=
      mapM_map_ok actions fun e he => child_toJson (h.children e he)
    rw [canonicalAction_offsetGroup h.scope h.not_device, if_neg (by omega),
      Target.groupIds_normal, hblock, ok_bind, if_neg (by have := h.count; omega), hchildren, ok_bind]
    rfl

/-- A container that is broadcast has no groups for a table; the validator refuses it. -/
theorem canonicalAction_explicit_broadcast (values : List OffsetEntry) (actions : List Effect) :
    canonicalAction (Action.offsetGroup .broadcast (.explicit values) actions).toJson =
      .error (.valueError
        "groups_offset.offset.mode=\"explicit\" requires a concrete groups list" []) := by
  rw [canonicalAction_offsetGroup (t := .broadcast) trivial (by simp)]
  simp [Target.groupIds, Target.normal, canonicalOffsetBlock, OffsetBlock.toJson, dict, Dict.get]

theorem canonicalActions_canonical {raw : Json} {actions : List Action}
    (h : canonicalActions raw = .ok actions) : CanonicalList actions := by
  unfold canonicalActions at h
  split at h
  · cases h
    exact ⟨Nat.zero_le _, by simp⟩
  · obtain ⟨hcount, h⟩ := guard_ok.mp h
    have hall := mapM_ok.mp h
    refine ⟨?_, fun a ha => ?_⟩
    · rw [← hall.length_eq]
      omega
    · obtain ⟨r, -, hr⟩ := exists_of_forall₂_right hall ha
      exact canonicalAction_canonical hr
  · cases h

/-- Valid actions, few enough, are accepted and come out in order. -/
theorem canonicalActions_valid {actions : List Action} (hcount : actions.length ≤ MAX_ACTIONS_PER_SCENE)
    (h : ∀ a ∈ actions, a.Valid) :
    canonicalActions (actionsJson actions) = .ok (actions.map Action.normal) := by
  show (if (actions.map Action.toJson).length > MAX_ACTIONS_PER_SCENE then _ else _) = _
  rw [if_neg (by rw [List.length_map]; omega)]
  exact mapM_map_ok actions fun a ha => canonicalAction_toJson (h a ha)

/-- **A canonical list is a fixed point of `_canonical_actions`.** -/
theorem canonicalActions_toJson {actions : List Action} (h : CanonicalList actions) :
    canonicalActions (actionsJson actions) = .ok actions := by
  rw [canonicalActions_valid h.count fun a ha => (h.actions a ha).1,
    map_eq_self.mpr fun a ha => (h.actions a ha).2]

end RaceLink.Scenes
