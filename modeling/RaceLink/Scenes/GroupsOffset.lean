import RaceLink.Scenes.Legacy

/-! The removed target `groups_offset`, and with it every action: an action of any shape is read as its modern
form.

The shim reads the numbers before the validator does, and the modern form leaves them to it; both refuse what is
no number, and what the shim has read the validator reads again. -/
namespace RaceLink.Scenes
open Python Domain Library

/-! ### Numbers, before and after they are read -/

/-- The ints that values are read as. -/
abbrev ReadAs (raw : List Json) (ids : List Int) : Prop := List.Forall₂ (fun r n => Json.toInt r = .ok n) raw ids

theorem toIntOr_read {raw : Json} {n : Int} (h : raw.toInt = .ok n) (err : PyError) : raw.toIntOr err = .ok n := by
  rw [Json.toIntOr, h]

theorem collectGroupIds_read {raw : List Json} {ids : List Int} (h : ReadAs raw ids) (taken : List Int) :
    collectGroupIds taken raw = collectGroupIds taken (ids.map .int) := by
  induction h generalizing taken with
  | nil => rfl
  | @cons r n raw ids hr _ ih =>
    rw [List.map_cons, collectGroupIds, collectGroupIds, toIntOr_read hr, toIntOr_int, ok_bind, ok_bind, ih]

theorem collectGroupIds_reads {taken out : List Int} {raw : List Json} (h : collectGroupIds taken raw = .ok out) :
    ∃ ids, ReadAs raw ids := by
  induction raw generalizing taken with
  | nil => exact ⟨[], .nil⟩
  | cons r raw ih =>
    obtain ⟨n, hn, h⟩ := bind_ok.mp h
    obtain ⟨-, h⟩ := guard_ok.mp h
    obtain ⟨-, h⟩ := guard_ok.mp h
    obtain ⟨ids, hids⟩ := ih h
    exact ⟨n :: ids, .cons (toIntOr_ok hn) hids⟩

theorem validateInt_read {raw : Json} {n : Int} (h : raw.toInt = .ok n) (name : String) (lo hi : Int) :
    validateInt name raw lo hi = validateInt name (.int n) lo hi := by
  rw [validateInt, validateInt, toIntOr_read h, toIntOr_int]

theorem linear_block (groupIds : Option (List Int)) (base step : Json) :
    canonicalOffsetBlock groupIds (linearJson base step) = (do
      let base ← validateInt "groups_offset.offset.base_ms" base OFFSET_BASE_MIN OFFSET_BASE_MAX
      let step ← validateInt "groups_offset.offset.step_ms" step OFFSET_STEP_MIN OFFSET_STEP_MAX
      .ok (.linear base step)) := by
  simp [canonicalOffsetBlock, linearJson, dict, Dict.get, Dict.getD, canonicalOffsetBlock.baseAndStep]

theorem linear_read {base step : Json} {b s : Int} (hbase : base.toInt = .ok b) (hstep : step.toInt = .ok s)
    (groupIds : Option (List Int)) :
    canonicalOffsetBlock groupIds (linearJson base step) =
      canonicalOffsetBlock groupIds (linearJson (.int b) (.int s)) := by
  rw [linear_block, linear_block, validateInt_read hbase, validateInt_read hstep]

theorem linear_reads {groupIds : Option (List Int)} {base step : Json} {block : OffsetBlock}
    (h : canonicalOffsetBlock groupIds (linearJson base step) = .ok block) :
    ∃ b s, base.toInt = .ok b ∧ step.toInt = .ok s := by
  rw [linear_block] at h
  obtain ⟨b, hb, h⟩ := bind_ok.mp h
  obtain ⟨s, hs, -⟩ := bind_ok.mp h
  exact ⟨b, s, validateInt_toInt hb, validateInt_toInt hs⟩

theorem entry_read {id offset : Json} {n m : Int} (hid : id.toInt = .ok n) (hoffset : offset.toInt = .ok m)
    (groupIds : List Int) :
    canonicalOffsetEntry groupIds (rowJson id offset) = canonicalOffsetEntry groupIds (rowJson (.int n) (.int m)) := by
  simp [canonicalOffsetEntry, rowJson, dict, Dict.get, validateInt_read hid, validateInt_read hoffset]

theorem entry_reads {groupIds : List Int} {id offset : Json} {e : OffsetEntry}
    (h : canonicalOffsetEntry groupIds (rowJson id offset) = .ok e) : ∃ n m, id.toInt = .ok n ∧ offset.toInt = .ok m := by
  simp only [canonicalOffsetEntry, rowJson, dict, Dict.get, List.map_cons, List.map_nil] at h
  obtain ⟨n, hn, h⟩ := bind_ok.mp h
  obtain ⟨-, h⟩ := guard_ok.mp h
  obtain ⟨m, hm, -⟩ := bind_ok.mp h
  exact ⟨n, m, validateInt_toInt hn, validateInt_toInt hm⟩

theorem explicit_block (ids : List Int) (values : List Json) :
    canonicalOffsetBlock (some ids) (explicitJson values) =
      if values.length ≠ ids.length then .error canonicalOffsetBlock.valuesError
      else values.mapM (canonicalOffsetEntry ids) >>= fun values => .ok (.explicit (sortEntries values)) := by
  simp [canonicalOffsetBlock, explicitJson, dict, Dict.get]

/-- Tables with rows that are read alike. -/
theorem explicit_read {values values' : List Json}
    (h : List.Forall₂ (fun v v' => ∀ ids, canonicalOffsetEntry ids v = canonicalOffsetEntry ids v') values values')
    (groupIds : Option (List Int)) :
    canonicalOffsetBlock groupIds (explicitJson values) = canonicalOffsetBlock groupIds (explicitJson values') := by
  cases groupIds with
  | none => rfl
  | some ids => rw [explicit_block, explicit_block, h.length_eq, mapM_congr_forall₂ (h.imp fun _ _ hv => hv ids)]

theorem explicit_reads {groupIds : Option (List Int)} {values : List Json} {block : OffsetBlock}
    (h : canonicalOffsetBlock groupIds (explicitJson values) = .ok block) :
    ∀ v ∈ values, ∃ ids e, canonicalOffsetEntry ids v = .ok e := by
  cases groupIds with
  | none => cases h
  | some ids =>
    rw [explicit_block] at h
    obtain ⟨-, h⟩ := guard_ok.mp h
    obtain ⟨entries, hentries, -⟩ := bind_ok.mp h
    intro v hv
    obtain ⟨e, -, he⟩ := exists_of_forall₂_left (mapM_ok.mp hentries) hv
    exact ⟨ids, e, he⟩

/-! ### The removed target -/

/-- What a container's target and offset are read as. -/
def ReadsAs (target offset : Json) (t : Target) (block : OffsetBlock) : Prop :=
  canonicalOffsetGroupContainerTarget target = .ok t ∧ canonicalOffsetBlock t.groupIds offset = .ok block

/-- The target of the container that the shim makes. -/
def shimTarget (groups : Json) : Except PyError Json :=
  if groups = .str "all" then .ok broadcastJson else groups.toList >>= fun value => .ok (groupsJson (.arr value))

/-- The target and the offset that the shim makes. -/
def shimParts (legacyTarget : Dict) : Except PyError (Json × Json) :=
  legacyGroupsAndOffset legacyTarget >>= fun parts => shimTarget parts.1 >>= fun target => .ok (target, parts.2)

theorem asDict_eq_some {raw : Json} {fields : Dict} : asDict raw = some fields ↔ raw = .obj fields := by
  cases raw <;> simp [asDict]

theorem asDict_rows {entries : List Json} {rows : List Dict} :
    entries.mapM asDict = some rows ↔ entries = rows.map Json.obj := by
  induction entries generalizing rows with
  | nil => cases rows <;> simp
  | cons e entries ih =>
    cases rows with
    | nil => cases h : asDict e <;> cases h' : entries.mapM asDict <;> simp [h, h']
    | cons row rows =>
      rw [List.map_cons, List.cons.injEq, ← asDict_eq_some, ← ih]
      cases h : asDict e <;> cases h' : entries.mapM asDict <;> simp [h, h']

section Rows
variable (hints : Dict) (rows : List Dict)

/-- The ids that the shim reads. -/
def shimIds : Except PyError (List Int) := rows.mapM fun row => (row.get "id").toInt

/-- The offset that the shim makes of rows. -/
def shimOffset : Except PyError Json :=
  let base := hints.get "base_ms"
  let step := hints.get "step_ms"
  if hints.get "mode" = .str "linear" ∧ base ≠ .null ∧ step ≠ .null then do
    let base ← base.toInt
    let step ← step.toInt
    .ok (linearJson (.int base) (.int step))
  else do
    let values ← rows.mapM fun row => legacyGroupsAndOffset.legacyEntry (.obj row)
    .ok (explicitJson values)

/-- The rows that the shim takes. -/
theorem legacy_rows {target : Dict} {row : Dict} {rest : List Json}
    (hgroups : target.get "groups" = .arr (.obj row :: rest)) (hrows : .obj row :: rest = rows.map Json.obj)
    (hhints : (target.get "ui_hints").orElse (.obj []) = .obj hints) :
    legacyGroupsAndOffset target =
      (shimIds rows >>= fun ids => shimOffset hints rows >>= fun offset => .ok (.arr (ids.map .int), offset)) := by
  have hids : (rows.map Json.obj).mapM (fun e => do (← e.attrGet "id").toInt) = shimIds rows := by
    rw [List.mapM_map]
    rfl
  have hentries : (rows.map Json.obj).mapM legacyGroupsAndOffset.legacyEntry =
      rows.mapM fun row => legacyGroupsAndOffset.legacyEntry (.obj row) := by
    rw [List.mapM_map]
    rfl
  unfold legacyGroupsAndOffset
  rw [hgroups]
  dsimp only
  rw [hhints, hrows, hids, hentries]
  cases shimIds rows with
  | error e => rfl
  | ok ids =>
    unfold shimOffset
    simp only [ok_bind, Json.attrGet]
    split
    · cases (hints.get "base_ms").toInt with
      | error e => rfl
      | ok b => cases (hints.get "step_ms").toInt <;> rfl
    · cases rows.mapM fun row => legacyGroupsAndOffset.legacyEntry (.obj row) <;> rfl

/-- The target of the rows is read as the target of the ids that the shim reads. -/
theorem target_rows {t : Target} :
    canonicalOffsetGroupContainerTarget (groupsJson (.arr (rows.map (·.get "id")))) = .ok t ↔
      ∃ ids, shimIds rows = .ok ids ∧ canonicalOffsetGroupContainerTarget (groupsJson (.arr (ids.map .int))) = .ok t := by
  have hread : ∀ {ids}, shimIds rows = .ok ids → ReadAs (rows.map (·.get "id")) ids := fun hids =>
    List.forall₂_map_left_iff.mpr (mapM_ok.mp hids)
  have hsame : ∀ {ids}, shimIds rows = .ok ids → canonicalTarget (groupsJson (.arr (rows.map (·.get "id")))) =
      canonicalTarget (groupsJson (.arr (ids.map .int))) := fun {ids} hids => by
    have hids := hread hids
    cases hids' : rows.map (·.get "id") with
    | nil =>
      rw [hids'] at hids
      cases hids
      rfl
    | cons r rs =>
      rw [hids'] at hids
      obtain ⟨n, ns, -, -, rfl⟩ := List.forall₂_cons_left_iff.mp hids
      rw [List.map_cons, canonicalTarget_groupsJson, canonicalTarget_groupsJson, collectGroupIds_read hids, List.map_cons]
  constructor
  · intro h
    obtain ⟨ids, hids⟩ : ∃ ids, shimIds rows = .ok ids := by
      obtain ⟨t', ht', -⟩ := bind_ok.mp h
      cases hids' : rows.map (·.get "id") with
      | nil =>
        rw [List.map_eq_nil_iff.mp hids']
        exact ⟨[], rfl⟩
      | cons r rs =>
        rw [hids', canonicalTarget_groupsJson] at ht'
        obtain ⟨out, hout, -⟩ := bind_ok.mp ht'
        obtain ⟨ids, hread⟩ := collectGroupIds_reads hout
        rw [← hids'] at hread
        exact ⟨ids, mapM_ok.mpr (List.forall₂_map_left_iff.mp hread)⟩
    refine ⟨ids, hids, ?_⟩
    rwa [canonicalOffsetGroupContainerTarget, hsame hids] at h
  · intro h
    obtain ⟨ids, hids, h⟩ := h
    rwa [canonicalOffsetGroupContainerTarget, hsame hids]

/-- The offset of the rows is read as the offset that the shim makes of them. -/
theorem offset_rows {groupIds : Option (List Int)} {block : OffsetBlock} :
    canonicalOffsetBlock groupIds (rowsOffset hints rows) = .ok block ↔
      ∃ offset, shimOffset hints rows = .ok offset ∧ canonicalOffsetBlock groupIds offset = .ok block := by
  unfold rowsOffset shimOffset
  dsimp only
  split
  · constructor
    · intro h
      obtain ⟨b, s, hb, hs⟩ := linear_reads h
      exact ⟨linearJson (.int b) (.int s), by rw [hb, ok_bind, hs, ok_bind], by rwa [linear_read hb hs] at h⟩
    · intro ⟨offset, hoffset, h⟩
      obtain ⟨b, hb, hoffset⟩ := bind_ok.mp hoffset
      obtain ⟨s, hs, hoffset⟩ := bind_ok.mp hoffset
      cases hoffset
      rwa [linear_read hb hs]
  · have hsame : ∀ {values}, rows.mapM (fun row => legacyGroupsAndOffset.legacyEntry (.obj row)) = .ok values →
        canonicalOffsetBlock groupIds (explicitJson (rows.map fun row =>
          rowJson (row.get "id") (row.getD "offset_ms" (.int 0)))) = canonicalOffsetBlock groupIds (explicitJson values) :=
      fun hvalues => explicit_read (List.forall₂_map_left_iff.mpr ((mapM_ok.mp hvalues).imp fun row v hv => by
        obtain ⟨n, hn, hv⟩ := bind_ok.mp hv
        obtain ⟨m, hm, hv⟩ := bind_ok.mp hv
        cases hv
        exact entry_read hn hm)) groupIds
    constructor
    · intro h
      have hall : ∀ row ∈ rows, ∃ v, legacyGroupsAndOffset.legacyEntry (.obj row) = .ok v := by
        intro row hrow
        obtain ⟨ids, e, he⟩ := explicit_reads h _ (List.mem_map_of_mem hrow)
        obtain ⟨n, m, hn, hm⟩ := entry_reads he
        exact ⟨rowJson (.int n) (.int m), bind_ok.mpr ⟨n, hn, bind_ok.mpr ⟨m, hm, rfl⟩⟩⟩
      obtain ⟨values, hvalues⟩ := mapM_total hall
      exact ⟨explicitJson values, by rw [hvalues, ok_bind], by rwa [hsame hvalues] at h⟩
    · intro ⟨offset, hoffset, h⟩
      obtain ⟨values, hvalues, hoffset⟩ := bind_ok.mp hoffset
      cases hoffset
      rwa [hsame hvalues]

end Rows

/-- Rows that the shim takes are dicts, and so are their hints. -/
theorem legacy_rows_dicts {target row : Dict} {rest : List Json} {parts : Json × Json}
    (hgroups : target.get "groups" = .arr (.obj row :: rest)) (h : legacyGroupsAndOffset target = .ok parts) :
    ∃ (rows : List Dict) (hints : Dict), .obj row :: rest = rows.map Json.obj ∧ (target.get "ui_hints").orElse (.obj []) = .obj hints := by
  unfold legacyGroupsAndOffset at h
  rw [hgroups] at h
  obtain ⟨ids, hids, h⟩ := bind_ok.mp h
  obtain ⟨base, hbase, -⟩ := bind_ok.mp h
  have hdicts : ∀ e ∈ Json.obj row :: rest, ∃ fields, asDict e = some fields := by
    intro e he
    obtain ⟨n, -, hn⟩ := exists_of_forall₂_left (mapM_ok.mp hids) he
    obtain ⟨id, hid, -⟩ := bind_ok.mp hn
    unfold Json.attrGet at hid
    split at hid
    · exact ⟨_, rfl⟩
    · cases hid
  have hrows : ∀ entries : List Json, (∀ e ∈ entries, ∃ fields, asDict e = some fields) →
      ∃ rows : List Dict, entries = rows.map Json.obj := by
    intro entries
    induction entries with
    | nil => exact fun _ => ⟨[], rfl⟩
    | cons e entries ih =>
      intro hall
      obtain ⟨fields, hfields⟩ := hall e (List.mem_cons_self ..)
      obtain ⟨rows, rfl⟩ := ih fun e' he' => hall e' (List.mem_cons_of_mem e he')
      exact ⟨fields :: rows, by rw [asDict_eq_some.mp hfields, List.map_cons]⟩
  obtain ⟨rows, hrows⟩ := hrows _ hdicts
  unfold Json.attrGet at hbase
  split at hbase
  · next hints hhints => exact ⟨rows, hints, hrows, hhints⟩
  · cases hbase

/-- With a list of groups, shim and modern form make the same container. -/
theorem shimParts_groups {target : Dict} (hno : ∀ row rest, target.get "groups" ≠ .arr (.obj row :: rest)) :
    (shimParts target).toOption = groupsOffsetParts target := by
  have hlegacy : legacyGroupsAndOffset target =
      .ok (if namesAll (target.get "groups") then .str "all" else target.get "groups",
        (target.get "offset").orElse (dict [("mode", .str "none")])) := by
    unfold legacyGroupsAndOffset
    split
    · next row rest heq => exact absurd heq (hno row rest)
    · by_cases hall : namesAll (target.get "groups")
      · rw [if_pos hall]
        exact if_pos hall
      · rw [if_neg hall]
        exact if_neg hall
  have hmodern : groupsOffsetParts target =
      if namesAll (target.get "groups") then
        some (broadcastJson, (target.get "offset").orElse (dict [("mode", .str "none")]))
      else (target.get "groups").toList.toOption.map fun value =>
        (groupsJson (.arr value), (target.get "offset").orElse (dict [("mode", .str "none")])) := by
    unfold groupsOffsetParts
    split
    · next row rest heq => exact absurd heq (hno row rest)
    · rfl
  rw [shimParts, hlegacy, ok_bind, hmodern]
  by_cases hall : namesAll (target.get "groups")
  · rw [if_pos hall, if_pos hall]
    rfl
  · rw [if_neg hall, if_neg hall, shimTarget, if_neg fun h => hall (.inl h)]
    cases (target.get "groups").toList <;> rfl

section RowTarget
variable {target row hints : Dict} {rest : List Json} {rows : List Dict}

theorem shimParts_rows (hgroups : target.get "groups" = .arr (.obj row :: rest)) (hrows : .obj row :: rest = rows.map Json.obj)
    (hhints : (target.get "ui_hints").orElse (.obj []) = .obj hints) : shimParts target =
      (shimIds rows >>= fun ids => shimOffset hints rows >>= fun offset =>
        .ok (groupsJson (.arr (ids.map .int)), offset)) := by
  rw [shimParts, legacy_rows hints rows hgroups hrows hhints]
  cases shimIds rows with
  | error e => rfl
  | ok ids => cases shimOffset hints rows <;> rfl

theorem groupsOffsetParts_rows (hgroups : target.get "groups" = .arr (.obj row :: rest))
    (hrows : .obj row :: rest = rows.map Json.obj) (hhints : (target.get "ui_hints").orElse (.obj []) = .obj hints) :
    groupsOffsetParts target = some (groupsJson (.arr (rows.map (·.get "id"))), rowsOffset hints rows) := by
  rw [groupsOffsetParts, hgroups]
  dsimp only
  rw [asDict_rows.mpr hrows, hhints]
  rfl

end RowTarget

/-- **A target `groups_offset` is read as its modern form.** -/
theorem parts_read {target : Dict} {t : Target} {block : OffsetBlock} :
    (∃ parts, shimParts target = .ok parts ∧ ReadsAs parts.1 parts.2 t block) ↔
      ∃ parts, groupsOffsetParts target = some parts ∧ ReadsAs parts.1 parts.2 t block := by
  by_cases hno : ∀ row rest, target.get "groups" ≠ .arr (.obj row :: rest)
  · rw [← shimParts_groups hno]
    simp only [toOption_eq_some]
  push Not at hno
  obtain ⟨row, rest, hgroups⟩ := hno
  constructor
  · intro ⟨parts, hparts, htarget, hblock⟩
    obtain ⟨legacy, hlegacy, -⟩ := bind_ok.mp hparts
    obtain ⟨rows, hints, hrows, hhints⟩ := legacy_rows_dicts hgroups hlegacy
    rw [shimParts_rows hgroups hrows hhints] at hparts
    obtain ⟨ids, hids, hparts⟩ := bind_ok.mp hparts
    obtain ⟨offset, hoffset, hparts⟩ := bind_ok.mp hparts
    cases hparts
    exact ⟨_, groupsOffsetParts_rows hgroups hrows hhints, (target_rows rows).mpr ⟨ids, hids, htarget⟩,
      (offset_rows hints rows).mpr ⟨offset, hoffset, hblock⟩⟩
  · intro ⟨parts, hparts, htarget, hblock⟩
    obtain ⟨rows, hints, hrows, hhints⟩ : ∃ (rows : List Dict) (hints : Dict), .obj row :: rest = rows.map Json.obj ∧
        (target.get "ui_hints").orElse (.obj []) = .obj hints := by
      rw [groupsOffsetParts, hgroups] at hparts
      obtain ⟨rows, hrows, hparts⟩ := Option.bind_eq_some_iff.mp hparts
      obtain ⟨hints, hhints, -⟩ := Option.bind_eq_some_iff.mp hparts
      exact ⟨rows, hints, asDict_rows.mp hrows, asDict_eq_some.mp hhints⟩
    rw [groupsOffsetParts_rows hgroups hrows hhints] at hparts
    cases hparts
    obtain ⟨ids, hids, htarget⟩ := (target_rows rows).mp htarget
    obtain ⟨offset, hoffset, hblock⟩ := (offset_rows hints rows).mp hblock
    exact ⟨_, by rw [shimParts_rows hgroups hrows hhints, hids, ok_bind, hoffset, ok_bind], htarget, hblock⟩

/-- What it takes for a container to be accepted. -/
theorem offsetGroup_eq_ok {raw : Dict} {a : Action} : canonicalOffsetGroupAction raw = .ok a ↔
    ∃ t block rawChildren children, (containerTargetRaw raw >>= canonicalOffsetGroupContainerTarget) = .ok t ∧
      ¬ (t.groupIds.getD []).length > MAX_GROUPS_OFFSET_ENTRIES ∧
      canonicalOffsetBlock t.groupIds (raw.get "offset") = .ok block ∧
      (raw.get "actions").orElse (.arr []) = .arr rawChildren ∧
      ¬ rawChildren.length > MAX_OFFSET_GROUP_CHILDREN ∧
      rawChildren.mapM (canonicalOffsetGroupChild t.groupIds) = .ok children ∧
      .offsetGroup t block children = a := by
  unfold canonicalOffsetGroupAction
  constructor
  · intro h
    obtain ⟨targetRaw, htargetRaw, h⟩ := bind_ok.mp h
    obtain ⟨t, ht, h⟩ := bind_ok.mp h
    obtain ⟨hentries, h⟩ := guard_ok.mp h
    obtain ⟨block, hblock, h⟩ := bind_ok.mp h
    split at h
    · next rawChildren hactions =>
      obtain ⟨hcount, h⟩ := guard_ok.mp h
      obtain ⟨children, hchildren, h⟩ := bind_ok.mp h
      exact ⟨t, block, rawChildren, children, bind_ok.mpr ⟨targetRaw, htargetRaw, ht⟩, hentries, hblock, hactions,
        hcount, hchildren, Except.ok.inj h⟩
    · cases h
  · intro ⟨t, block, rawChildren, children, hscope, hentries, hblock, hactions, hcount, hchildren, ha⟩
    obtain ⟨targetRaw, htargetRaw, ht⟩ := bind_ok.mp hscope
    rw [htargetRaw, ok_bind, ht, ok_bind, if_neg hentries, hblock, ok_bind, hactions]
    dsimp only
    rw [if_neg hcount, hchildren, ok_bind, ha]

section One
variable {target offset kind : Json} {params flagsOverride : Dict}

theorem scopeOfOne {t : Target} :
    (containerTargetRaw (containerOfOne target offset kind params flagsOverride) >>=
      canonicalOffsetGroupContainerTarget) = .ok t ↔ canonicalOffsetGroupContainerTarget target = .ok t := by
  have htarget : (containerOfOne target offset kind params flagsOverride).get "target" = target := by
    simp [containerOfOne, Dict.get]
  have hgroups : (containerOfOne target offset kind params flagsOverride).get "groups" = .null := by
    simp [containerOfOne, Dict.get]
  rw [containerTargetRaw, htarget]
  cases target with
  | null =>
    rw [migrateLegacyOffsetGroupGroupsField, hgroups]
    constructor
    · intro h
      cases h
    · intro h
      cases h
  | _ => rfl

/-- A container of one child is read through what its target and its offset are read as. -/
theorem containerOfOne_ok {a : Action} :
    canonicalModernAction (containerOfOne target offset kind params flagsOverride) = .ok a ↔
      ∃ t block, ReadsAs target offset t block ∧ ¬ (t.groupIds.getD []).length > MAX_GROUPS_OFFSET_ENTRIES ∧
        ∃ children, [dict [("kind", kind), ("target", broadcastJson), ("params", .obj params),
          ("flags_override", .obj flagsOverride)]].mapM (canonicalOffsetGroupChild t.groupIds) = .ok children ∧
          .offsetGroup t block children = a := by
  have hkind : (containerOfOne target offset kind params flagsOverride).get "kind" = .str "offset_group" := by
    simp [containerOfOne, Dict.get]
  have hstray : refuseStray "offset_group" (containerOfOne target offset kind params flagsOverride)
      ["params", "flags_override", "duration_ms"] = .ok () := by
    simp [refuseStray_ok, containerOfOne, Dict.has]
  have hoffset : (containerOfOne target offset kind params flagsOverride).get "offset" = offset := by
    simp [containerOfOne, Dict.get]
  have hactions : ((containerOfOne target offset kind params flagsOverride).get "actions").orElse (.arr []) =
      .arr [dict [("kind", kind), ("target", broadcastJson), ("params", .obj params),
        ("flags_override", .obj flagsOverride)]] := by
    simp [containerOfOne, Dict.get, Json.orElse, Json.truthy]
  rw [canonicalModernAction_container hkind, hstray, ok_bind, offsetGroup_eq_ok, hoffset, hactions]
  constructor
  · intro h
    obtain ⟨t, block, rawChildren, children, hscope, hentries, hblock, hraw, -, hchildren, ha⟩ := h
    cases hraw
    exact ⟨t, block, ⟨scopeOfOne.mp hscope, hblock⟩, hentries, children, hchildren, ha⟩
  · intro h
    obtain ⟨t, block, ⟨htarget, hblock⟩, hentries, children, hchildren, ha⟩ := h
    exact ⟨t, block, _, children, scopeOfOne.mpr htarget, hentries, hblock, rfl, by simp [MAX_OFFSET_GROUP_CHILDREN], hchildren, ha⟩

end One

theorem shim_eq {raw target : Dict} (htarget : raw.get "target" = .obj target) :
    migrateLegacyGroupsOffsetAction raw = (do
      let parts ← legacyGroupsAndOffset target
      let params ← ((raw.get "params").orElse (.obj [])).toDict
      let flagsOverride ← ((raw.get "flags_override").orElse (.obj [])).toDict
      let containerTarget ← shimTarget parts.1
      .ok (containerOfOne containerTarget parts.2 (raw.get "kind") params flagsOverride)) := by
  unfold migrateLegacyGroupsOffsetAction
  rw [htarget]
  dsimp only
  cases legacyGroupsAndOffset target with
  | error e => rfl
  | ok parts =>
    rw [ok_bind, ok_bind]
    refine congrArg _ (funext fun params => congrArg _ (funext fun flagsOverride => ?_))
    unfold shimTarget
    by_cases hall : parts.1 = .str "all"
    · rw [if_pos hall, if_pos hall]
      rfl
    · rw [if_neg hall, if_neg hall]
      cases parts.1.toList <;> rfl

/-- What the shim makes of an action with a target `groups_offset`. -/
theorem shim_ok {raw target : Dict} (htarget : raw.get "target" = .obj target) {m : Dict} :
    migrateLegacyGroupsOffsetAction raw = .ok m ↔ ∃ parts, shimParts target = .ok parts ∧ ∃ params flagsOverride,
      ((raw.get "params").orElse (.obj [])).toDict = .ok params ∧
      ((raw.get "flags_override").orElse (.obj [])).toDict = .ok flagsOverride ∧
      m = containerOfOne parts.1 parts.2 (raw.get "kind") params flagsOverride := by
  rw [shim_eq htarget]
  constructor
  · intro h
    obtain ⟨legacy, hlegacy, h⟩ := bind_ok.mp h
    obtain ⟨params, hparams, h⟩ := bind_ok.mp h
    obtain ⟨flagsOverride, hflags, h⟩ := bind_ok.mp h
    obtain ⟨containerTarget, hcontainer, h⟩ := bind_ok.mp h
    refine ⟨(containerTarget, legacy.2), ?_, params, flagsOverride, hparams, hflags, (Except.ok.inj h).symm⟩
    rw [shimParts, hlegacy, ok_bind, hcontainer, ok_bind]
  · intro ⟨parts, hparts, params, flagsOverride, hparams, hflags, hm⟩
    obtain ⟨legacy, hlegacy, hparts⟩ := bind_ok.mp hparts
    obtain ⟨containerTarget, hcontainer, hparts⟩ := bind_ok.mp hparts
    cases hparts
    rw [hlegacy, ok_bind, hparams, ok_bind, hflags, ok_bind, hcontainer, ok_bind, hm]

theorem modernGroupsOffset_some {raw target : Dict} (htarget : raw.get "target" = .obj target) {m : Dict} :
    modernGroupsOffset raw = some m ↔ ∃ parts, groupsOffsetParts target = some parts ∧ ∃ params flagsOverride,
      ((raw.get "params").orElse (.obj [])).toDict = .ok params ∧
      ((raw.get "flags_override").orElse (.obj [])).toDict = .ok flagsOverride ∧
      m = containerOfOne parts.1 parts.2 (raw.get "kind") params flagsOverride := by
  unfold modernGroupsOffset
  rw [htarget]
  simp only [asDict, Option.bind_eq_bind, Option.bind_some, Option.bind_eq_some_iff, toOption_eq_some, Option.pure_def,
    Option.some.injEq, exists_and_left, @eq_comm _ m]

/-- **An action with a target `groups_offset` is read as its container.** -/
theorem groupsOffset_modern {raw target : Dict} (htarget : raw.get "target" = .obj target) (a : Action) :
    (migrateLegacyGroupsOffsetAction raw >>= canonicalModernAction) = .ok a ↔
      ∃ m, modernGroupsOffset raw = some m ∧ canonicalModernAction m = .ok a := by
  rw [bind_ok]
  simp only [shim_ok htarget, modernGroupsOffset_some htarget]
  constructor
  · intro ⟨m, ⟨parts, hparts, params, flagsOverride, hparams, hflags, hm⟩, ha⟩
    subst hm
    obtain ⟨t, block, hreads, hrest⟩ := containerOfOne_ok.mp ha
    obtain ⟨parts', hparts', hreads'⟩ := parts_read.mp ⟨parts, hparts, hreads⟩
    exact ⟨_, ⟨parts', hparts', params, flagsOverride, hparams, hflags, rfl⟩,
      containerOfOne_ok.mpr ⟨t, block, hreads', hrest⟩⟩
  · intro ⟨m, ⟨parts, hparts, params, flagsOverride, hparams, hflags, hm⟩, ha⟩
    subst hm
    obtain ⟨t, block, hreads, hrest⟩ := containerOfOne_ok.mp ha
    obtain ⟨parts', hparts', hreads'⟩ := parts_read.mpr ⟨parts, hparts, hreads⟩
    exact ⟨_, ⟨parts', hparts', params, flagsOverride, hparams, hflags, rfl⟩,
      containerOfOne_ok.mpr ⟨t, block, hreads', hrest⟩⟩

/-! ### Every action -/

theorem modernTarget_modern (raw : Json) : ModernTarget (modernTarget raw) := by
  unfold modernTarget
  split
  · split
    · intro fields hfields
      cases hfields
      exact ⟨by simp [Dict.get], by simp [Dict.get]⟩
    · intro fields hfields
      cases hfields
      exact ⟨by simp [Dict.get], by simp [Dict.get]⟩
    · next hscope hgroup =>
      intro fields hfields
      cases hfields
      exact ⟨hscope, hgroup⟩
  · next hobj => exact fun fields hfields => absurd hfields (hobj fields)

/-- A target that is not `groups_offset` does not become one. -/
theorem modernTarget_hierarchy {raw : Json} (h : ∀ fields, raw = .obj fields → Dict.get fields "kind" ≠ .str "groups_offset") :
    ∀ fields, modernTarget raw = .obj fields → Dict.get fields "kind" ≠ .str "groups_offset" := by
  unfold modernTarget
  split
  · split
    · intro fields hfields
      cases hfields
      simp [Dict.get]
    · intro fields hfields
      cases hfields
      simp [Dict.get]
    · exact h
  · exact h

/-- A target of none of the older shapes. -/
structure CurrentTarget (target : Json) : Prop where
  modern : ModernTarget target
  hierarchy : ∀ fields, target = .obj fields → Dict.get fields "kind" ≠ .str "groups_offset"

theorem broadcastJson_current : CurrentTarget broadcastJson where
  modern := modernTarget_modern (dict [("kind", .str "scope")])
  hierarchy fields hfields := by
    cases hfields
    simp [Dict.get]

theorem groupsJson_current (value : Json) : CurrentTarget (groupsJson value) where
  modern fields hfields := by
    cases hfields
    exact ⟨by simp [Dict.get], by simp [Dict.get]⟩
  hierarchy fields hfields := by
    cases hfields
    simp [Dict.get]

theorem not_hierarchy {fields : Dict} : isLegacyGroupsOffsetTarget fields = false ↔
    ∀ target, fields.get "target" = .obj target → Dict.get target "kind" ≠ .str "groups_offset" := by
  unfold isLegacyGroupsOffsetTarget
  split
  · next target htarget =>
    rw [htarget, beq_eq_false_iff_ne]
    exact ⟨fun h target' heq => Json.obj.inj heq ▸ h, fun h => h target rfl⟩
  · next hno => exact iff_of_true rfl fun target heq => absurd heq (hno target)

theorem hierarchy_target {fields : Dict} (h : isLegacyGroupsOffsetTarget fields = true) :
    ∃ target, fields.get "target" = .obj target := by
  unfold isLegacyGroupsOffsetTarget at h
  split at h
  · next target htarget => exact ⟨target, htarget⟩
  · cases h

theorem modernChild_modern {child : Json} {fields : Dict} (h : modernChild child = .obj fields) :
    ModernTarget (fields.get "target") := by
  unfold modernChild at h
  split at h
  · next raw =>
    cases h
    by_cases htarget : Dict.has raw "target" = true
    · rw [target_withModernTarget htarget]
      exact modernTarget_modern _
    · have hnone : Dict.get? raw "target" = none := by simpa [Dict.has] using htarget
      rw [Dict.get, get?_withModernTarget, if_pos rfl, hnone]
      intro _ hobj
      cases hobj
  · next hobj => exact absurd h (hobj fields)

theorem modernContainer_modern {raw : Dict} (hlegacy : isLegacyGroupsOffsetTarget raw = false) :
    Modern (modernContainer raw) := by
  have hget : (modernContainer raw).get "target" = modernContainerTarget raw := by
    rw [Dict.get, get?_modernContainer, if_pos rfl, Option.getD_some]
  have htarget : CurrentTarget (modernContainerTarget raw) := by
    unfold modernContainerTarget
    split
    · split
      · exact broadcastJson_current
      · exact groupsJson_current _
    · exact ⟨modernTarget_modern _, modernTarget_hierarchy (not_hierarchy.mp hlegacy)⟩
  refine ⟨hget ▸ htarget.modern, not_hierarchy.mpr (hget ▸ htarget.hierarchy),
    fun _ => ⟨hget ▸ modernContainerTarget_ne_null raw, ?_⟩, ?_⟩
  · rw [Dict.has, get?_modernContainer, if_neg (by decide), if_pos rfl, Option.isSome_none]
  · intro _ children hchildren fields hfields
    rw [Dict.get, get?_modernContainer, if_neg (by decide), if_neg (by decide)] at hchildren
    cases hactions : raw.get "actions" with
    | arr old =>
      rw [hactions] at hchildren
      cases hchildren
      obtain ⟨child, -, hchild⟩ := List.mem_map.mp hfields
      exact modernChild_modern hchild
    | _ =>
      rw [hactions] at hchildren
      have hsame : raw.get "actions" = .arr children := hchildren
      rw [hactions] at hsame
      cases hsame

theorem containerOfOne_modern {target : Json} (htarget : CurrentTarget target) (hnull : target ≠ .null)
    (offset kind : Json) (params flagsOverride : Dict) :
    Modern (containerOfOne target offset kind params flagsOverride) := by
  have hget : (containerOfOne target offset kind params flagsOverride).get "target" = target := by
    simp [containerOfOne, Dict.get]
  refine ⟨hget ▸ htarget.modern, not_hierarchy.mpr (hget ▸ htarget.hierarchy), fun _ => ⟨hget ▸ hnull, ?_⟩, ?_⟩
  · simp [containerOfOne, Dict.has]
  · intro _ children hchildren fields hfields
    simp only [containerOfOne, Dict.get, Dict.get?_cons] at hchildren
    cases hchildren
    cases List.mem_singleton.mp hfields
    exact broadcastJson_current.modern

/-- The modern form of `groups_offset` has one of the two targets that are left. -/
theorem groupsOffsetParts_current {target : Dict} {parts : Json × Json} (h : groupsOffsetParts target = some parts) :
    CurrentTarget parts.1 ∧ parts.1 ≠ .null := by
  unfold groupsOffsetParts at h
  split at h
  · obtain ⟨rows, _, h⟩ := Option.bind_eq_some_iff.mp h
    obtain ⟨hints, _, h⟩ := Option.bind_eq_some_iff.mp h
    cases h
    exact ⟨groupsJson_current _, nofun⟩
  · dsimp only at h
    split at h
    · cases h
      exact ⟨broadcastJson_current, nofun⟩
    · obtain ⟨value, _, h⟩ := Option.map_eq_some_iff.mp h
      cases h
      exact ⟨groupsJson_current _, nofun⟩

theorem withModernTarget_current {raw : Dict} (hlegacy : isLegacyGroupsOffsetTarget raw = false) :
    CurrentTarget ((withModernTarget raw).get "target") := by
  by_cases hhas : raw.has "target" = true
  · rw [target_withModernTarget hhas]
    exact ⟨modernTarget_modern _, modernTarget_hierarchy (not_hierarchy.mp hlegacy)⟩
  · have hnone : raw.get? "target" = none := by simpa [Dict.has] using hhas
    rw [Dict.get, get?_withModernTarget, if_pos rfl, hnone]
    constructor
    · intro _ hobj
      cases hobj
    · intro _ hobj
      cases hobj

/-- **The modern form has no older shape left.** -/
theorem modernForm_modern {raw m : Dict} (h : modernForm raw = some m) : Modern m := by
  unfold modernForm at h
  split at h
  · next hlegacy =>
    obtain ⟨target, htarget⟩ := hierarchy_target hlegacy
    obtain ⟨parts, hparts, params, flagsOverride, _, _, rfl⟩ := (modernGroupsOffset_some htarget).mp h
    obtain ⟨hcurrent, hnull⟩ := groupsOffsetParts_current hparts
    exact containerOfOne_modern hcurrent hnull ..
  · next hlegacy =>
    have hlegacy : isLegacyGroupsOffsetTarget raw = false := by simpa using hlegacy
    split at h
    · cases h
      exact modernContainer_modern hlegacy
    · next hkind =>
      cases h
      have hkind' : (withModernTarget raw).get "kind" ≠ .str "offset_group" := by
        rwa [get_withModernTarget raw (by decide)]
      obtain ⟨hmodern, hhierarchy⟩ := withModernTarget_current hlegacy
      exact ⟨hmodern, not_hierarchy.mpr hhierarchy, fun h => absurd h hkind', fun h => absurd h hkind'⟩

/-- **An action is read as its modern form.** -/
theorem canonicalAction_modernForm (raw : Dict) (a : Action) :
    canonicalAction (.obj raw) = .ok a ↔ ∃ m, modernForm raw = some m ∧ canonicalAction (.obj m) = .ok a := by
  have hmodern : ∀ {m}, modernForm raw = some m → canonicalAction (.obj m) = canonicalModernAction m := fun hm =>
    canonicalAction_of_modern (modernForm_modern hm).hierarchy
  have hread : canonicalAction (.obj raw) = .ok a ↔
      ∃ m, modernForm raw = some m ∧ canonicalModernAction m = .ok a := by
    unfold modernForm
    by_cases hlegacy : isLegacyGroupsOffsetTarget raw = true
    · obtain ⟨target, htarget⟩ := hierarchy_target hlegacy
      rw [if_pos hlegacy, canonicalAction, modernAction, if_pos hlegacy]
      exact groupsOffset_modern htarget a
    · rw [if_neg hlegacy, canonicalAction_of_modern (by simpa using hlegacy)]
      by_cases hkind : raw.get "kind" = .str "offset_group"
      · rw [if_pos hkind, ← containerAction_modern hkind a]
        simp only [Option.some.injEq, exists_eq_left']
      · rw [if_neg hkind, ← action_modern hkind a]
        simp only [Option.some.injEq, exists_eq_left']
  rw [hread]
  exact exists_congr fun m => and_congr_right fun hm => by rw [hmodern hm]

/-- What the code's own shim makes of an action is read as the action. -/
theorem canonicalAction_shim {raw m : Dict} (h : modernAction raw = .ok m) :
    canonicalAction (.obj m) = canonicalAction (.obj raw) := by
  have hraw : canonicalAction (.obj raw) = canonicalModernAction m := by
    rw [canonicalAction, h, ok_bind]
  rw [hraw]
  refine canonicalAction_of_modern ?_
  unfold modernAction at h
  split at h
  · next hlegacy =>
    obtain ⟨target, htarget⟩ := hierarchy_target hlegacy
    obtain ⟨parts, hparts, params, flagsOverride, -, -, rfl⟩ := (shim_ok htarget).mp h
    obtain ⟨legacy, -, hparts⟩ := bind_ok.mp hparts
    obtain ⟨containerTarget, hcontainer, hparts⟩ := bind_ok.mp hparts
    cases hparts
    unfold shimTarget at hcontainer
    split at hcontainer
    · cases hcontainer
      rfl
    · obtain ⟨value, -, hcontainer⟩ := bind_ok.mp hcontainer
      cases hcontainer
      rfl
  · next hlegacy =>
    cases h
    simpa using hlegacy

/-- **The validator.** What it makes of an action is a fixed point of it; an action of any shape denotes its
modern form, and what the shim makes of it. -/
theorem canonicalAction_idempotent :
    (∀ raw a, canonicalAction raw = .ok a → canonicalAction a.toJson = .ok a) ∧
      ∀ raw, (∀ m, modernForm raw = some m → Modern m) ∧
        (∀ a, canonicalAction (.obj raw) = .ok a ↔ ∃ m, modernForm raw = some m ∧ canonicalAction (.obj m) = .ok a) ∧
        ∀ m, modernAction raw = .ok m → canonicalAction (.obj m) = canonicalAction (.obj raw) := by
  refine ⟨fun raw a h => ?_, fun raw => ⟨fun m hm => modernForm_modern hm, canonicalAction_modernForm raw,
    fun m hm => canonicalAction_shim hm⟩⟩
  obtain ⟨hvalid, hnormal⟩ := canonicalAction_canonical h
  rw [canonicalAction_toJson hvalid, hnormal]

/-- An action of the oldest shape: a table of rows, one with its id as a text and one without an offset. -/
def tableAction : Dict :=
  [(.str "kind", .str "rl_effect"),
    (.str "target", dict [("kind", .str "groups_offset"), ("groups", .arr [
      dict [("id", .str "3"), ("offset_ms", .int 120)], dict [("id", .int 1)]])])]

/-- The container that it stands for. -/
def tableContainer : Action :=
  .offsetGroup (.groups [1, 3]) (.explicit [⟨1, 0⟩, ⟨3, 120⟩]) [⟨.rlEffect, .broadcast, [], {}⟩]

theorem canonicalAction_idempotent_table :
    canonicalAction (.obj tableAction) = .ok tableContainer ∧
      canonicalAction tableContainer.toJson = .ok tableContainer ∧
      ∃ m, modernForm tableAction = some m ∧ canonicalAction (.obj m) = .ok tableContainer :=
  have haccepted : canonicalAction (.obj tableAction) = .ok tableContainer := by decide +kernel
  ⟨haccepted, canonicalAction_idempotent.1 _ _ haccepted,
    ((canonicalAction_idempotent.2 tableAction).2.1 tableContainer).mp haccepted⟩

end RaceLink.Scenes
