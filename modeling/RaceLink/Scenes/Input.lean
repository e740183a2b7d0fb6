import RaceLink.Scenes.Persistence
import RaceLink.Scenes.RenumberProofs

/-! Conditions on the raw actions of a request, before validation, and what they
become after it. They read a raw action the way the validator does: the shim for
the removed target first, then the fields. -/
namespace RaceLink.Scenes
open Python Library

/-- The dict of a raw action after the legacy shim, if the shim takes it. -/
def modern? : Json → Option Dict
  | .obj fields => (modernAction fields).toOption
  | _ => none

def isContainer (m : Dict) : Bool := Dict.get m "kind" == .str "offset_group"

/-- The groups a raw container lists, if its target is a groups target. -/
def containerGroups (m : Dict) : Option (List Int) :=
  match (containerTargetRaw m).toOption.bind fun t => (canonicalTarget t).toOption with
  | some target => target.groupIds
  | none => none

/-- The raw container has an explicit table. -/
def hasTable (m : Dict) : Bool :=
  match Dict.get m "offset" with
  | .obj block => Dict.get block "mode" == .str "explicit"
  | _ => false

/-- A raw container with an explicit table that lists every known group. -/
def explicitOverAll (known : List Int) (raw : Json) : Bool :=
  (modern? raw).any fun m => isContainer m && hasTable m && (containerGroups m).any (covers known)

/-- The id of a raw table row. -/
def rowId : Json → Option Int
  | .obj entry => (Dict.get entry "id").toInt.toOption
  | _ => none

def tableIds (m : Dict) : List Int :=
  match Dict.get m "offset" with
  | .obj block =>
    match Dict.get block "values" with
    | .arr rows => rows.filterMap rowId
    | _ => []
  | _ => []

/-- A raw container whose explicit table lists an id twice. -/
def repeatsTableId (raw : Json) : Bool :=
  (modern? raw).any fun m => isContainer m && hasTable m && !decide (tableIds m).Nodup

def rawChildren (m : Dict) : List Json :=
  match Dict.get m "actions" with
  | .arr children => children
  | _ => []

/-- The params of a raw action, or of the children of a raw container, have string keys only. -/
def TextualParams (raw : Json) : Prop :=
  ∀ m, modern? raw = some m →
    if isContainer m = true then ∀ fields, .obj fields ∈ rawChildren m → (Dict.get fields "params").Textual
    else (Dict.get m "params").Textual

/-! ### After validation -/

theorem modern?_of_ok {raw : Json} {a : Action} (h : canonicalAction raw = .ok a) :
    ∃ m, modern? raw = some m ∧ canonicalModernAction m = .ok a := by
  unfold canonicalAction at h
  split at h
  case h_2 => cases h
  obtain ⟨m, hm, h⟩ := bind_ok.mp h
  exact ⟨m, by rw [modern?, hm]; rfl, h⟩

theorem canonicalParams_textual {text : String} {raw : Json} {params : Dict}
    (h : canonicalParams text raw = .ok params) : raw.Textual ↔ (Json.obj params).Textual := by
  unfold canonicalParams at h
  split at h
  · cases h
    simp [Json.Textual, Json.TextualFields]
  · cases h
    exact Iff.rfl
  · cases h

/-- What the validator does with a modern dict, by its kind. -/
theorem modernAction_cases {m : Dict} {a : Action} (h : canonicalModernAction m = .ok a) :
    (isContainer m = true ∧ canonicalOffsetGroupAction m = .ok a) ∨
    (isContainer m = false ∧ (∀ known, a.explicitOverAll known = false) ∧ a.Distinct ∧
      (a.Textual ↔ (Dict.get m "params").Textual)) := by
  have heffect : ∀ kind, canonicalEffectAction kind m = .ok a →
      (∀ known, a.explicitOverAll known = false) ∧ a.Distinct ∧
        (a.Textual ↔ (Dict.get m "params").Textual) := by
    intro kind h
    obtain ⟨target, -, h⟩ := bind_ok.mp h
    obtain ⟨params, hparams, h⟩ := bind_ok.mp h
    obtain ⟨flags, -, h⟩ := bind_ok.mp h
    cases h
    exact ⟨fun _ => rfl, trivial, (canonicalParams_textual hparams).symm⟩
  have hstray : ∀ what strays, "params" ∈ strays → refuseStray what m strays = .ok () →
      (Dict.get m "params").Textual := by
    intro what strays hmem hok
    have hnone := refuseStray_ok.mp hok "params" hmem
    have hget : Dict.get? m "params" = none := by
      simpa [Dict.has] using hnone
    rw [Dict.get, hget]
    trivial
  unfold canonicalModernAction at h
  split at h <;> rename_i hkind
  · obtain ⟨-, -, h⟩ := bind_ok.mp h
    exact .inl ⟨by simp [isContainer, hkind], h⟩
  · obtain ⟨dur, -, h⟩ := bind_ok.mp h
    obtain ⟨-, h⟩ := guard_ok.mp h
    obtain ⟨_, hok, h⟩ := bind_ok.mp h
    cases h
    have := hstray _ _ (by simp) hok
    exact .inr ⟨by simp [isContainer, hkind], fun _ => rfl, trivial, by simp [Action.Textual, this]⟩
  · obtain ⟨_, hok, h⟩ := bind_ok.mp h
    cases h
    have := hstray _ _ (by simp) hok
    exact .inr ⟨by simp [isContainer, hkind], fun _ => rfl, trivial, by simp [Action.Textual, this]⟩
  · exact .inr ⟨by simp [isContainer, hkind], heffect _ h⟩
  · exact .inr ⟨by simp [isContainer, hkind], heffect _ h⟩
  · exact .inr ⟨by simp [isContainer, hkind], heffect _ h⟩
  · obtain ⟨target, -, h⟩ := bind_ok.mp h
    obtain ⟨params, hparams, h⟩ := bind_ok.mp h
    cases h
    exact .inr ⟨by simp [isContainer, hkind], fun _ => rfl, trivial,
      (canonicalParams_textual hparams).symm⟩
  · cases h

theorem rowId_of_entry {ids : List Int} {raw : Json} {e : OffsetEntry}
    (h : canonicalOffsetEntry ids raw = .ok e) : rowId raw = some e.id := by
  unfold canonicalOffsetEntry at h
  split at h
  case h_2 => cases h
  obtain ⟨gid, hgid, h⟩ := bind_ok.mp h
  obtain ⟨-, h⟩ := guard_ok.mp h
  obtain ⟨ms, -, h⟩ := bind_ok.mp h
  cases h
  rw [rowId, validateInt_toInt hgid]
  rfl

theorem rowIds_of_entries {ids : List Int} {rows : List Json} {values : List OffsetEntry}
    (h : List.Forall₂ (fun r e => canonicalOffsetEntry ids r = .ok e) rows values) :
    rows.filterMap rowId = values.map (·.id) := by
  induction h with
  | nil => rfl
  | cons hr _ ih => rw [List.filterMap_cons, rowId_of_entry hr, ih, List.map_cons]

/-- The block of a validated container is explicit exactly when the raw one is, and
then it has the raw one's ids. -/
theorem offsetBlock_table {groupIds : Option (List Int)} {m : Dict} {block : OffsetBlock}
    (h : canonicalOffsetBlock groupIds (Dict.get m "offset") = .ok block) :
    (hasTable m = true → ∃ values, block = .explicit values ∧
      ((values.map (·.id)).Nodup ↔ (tableIds m).Nodup)) ∧
    (hasTable m = false → ∀ values, block ≠ .explicit values) := by
  cases hoffset : Dict.get m "offset" with
  | obj fields =>
    rw [hoffset] at h
    dsimp only [canonicalOffsetBlock] at h
    split at h <;> rename_i hmode
    · cases h
      simp [hasTable, hoffset, hmode]
    · cases groupIds with
      | none => cases h
      | some ids =>
      dsimp only at h
      split at h <;> rename_i hrows
      case h_2 => cases h
      obtain ⟨-, h⟩ := guard_ok.mp h
      obtain ⟨values, hvalues, h⟩ := bind_ok.mp h
      cases h
      refine ⟨fun _ => ⟨_, rfl, ?_⟩, fun hno => by simp [hasTable, hoffset, hmode] at hno⟩
      rw [(sortEntries_ids_perm values).nodup_iff, ← rowIds_of_entries (mapM_ok.mp hvalues)]
      simp [tableIds, hoffset, hrows]
    · obtain ⟨_, -, h⟩ := bind_ok.mp h
      cases h
      simp [hasTable, hoffset, hmode]
    · obtain ⟨_, -, h⟩ := bind_ok.mp h
      obtain ⟨_, -, h⟩ := bind_ok.mp h
      cases h
      simp [hasTable, hoffset, hmode]
    · obtain ⟨_, -, h⟩ := bind_ok.mp h
      obtain ⟨_, -, h⟩ := bind_ok.mp h
      cases h
      simp [hasTable, hoffset, hmode]
    · cases h
  | _ => rw [hoffset] at h; cases h

theorem containerGroups_eq {m : Dict} {raw : Json} {target : Target}
    (hraw : containerTargetRaw m = .ok raw) (htarget : canonicalTarget raw = .ok target) :
    containerGroups m = target.groupIds := by
  simp [containerGroups, hraw, htarget, Except.toOption]

theorem child_textual {parentGroups : Option (List Int)} {raw : Json} {e : Effect}
    (h : canonicalOffsetGroupChild parentGroups raw = .ok e) :
    ∃ fields, raw = .obj fields ∧ ((Dict.get fields "params").Textual ↔ (Json.obj e.params).Textual) := by
  unfold canonicalOffsetGroupChild at h
  split at h
  case h_2 => cases h
  next fields =>
    split at h
    case h_1 => cases h
    obtain ⟨-, h⟩ := guard_ok.mp h
    obtain ⟨target, -, h⟩ := bind_ok.mp h
    obtain ⟨params, hparams, h⟩ := bind_ok.mp h
    obtain ⟨flags, -, h⟩ := bind_ok.mp h
    cases h
    exact ⟨fields, rfl, canonicalParams_textual hparams⟩

theorem children_textual {parentGroups : Option (List Int)} {raw : List Json} {children : List Effect}
    (h : List.Forall₂ (fun r c => canonicalOffsetGroupChild parentGroups r = .ok c) raw children) :
    (∀ e ∈ children, (Json.obj e.params).Textual) ↔
      ∀ fields, .obj fields ∈ raw → (Dict.get fields "params").Textual := by
  induction h with
  | nil => simp
  | cons hr _ ih =>
    obtain ⟨fields, rfl, hparams⟩ := child_textual hr
    simp only [List.mem_cons, forall_eq_or_imp, Json.obj.injEq, ih, ← hparams]

theorem rawChildren_eq {m : Dict} {items : List Json}
    (h : (Dict.get m "actions").orElse (.arr []) = .arr items) : rawChildren m = items := by
  unfold Json.orElse at h
  split at h
  case isTrue => rw [rawChildren, h]
  case isFalse hfalsy =>
    cases h
    unfold rawChildren
    cases hget : Dict.get m "actions" with
    | arr children => simpa [hget, Json.truthy] using hfalsy
    | _ => rfl

/-- A container and its raw dict have the same groups, the same kind of block and
children with the same params. -/
theorem container_input {m : Dict} {a : Action} (h : canonicalOffsetGroupAction m = .ok a) :
    (∀ known, a.explicitOverAll known = (hasTable m && (containerGroups m).any (covers known))) ∧
    (a.Distinct ↔ (hasTable m = true → (tableIds m).Nodup)) ∧
    (a.Textual ↔ ∀ fields, .obj fields ∈ rawChildren m → (Dict.get fields "params").Textual) := by
  obtain ⟨raw, target, offset, rawActions, children, rfl, hraw, htarget, hdev, -, hoffset, hactions, -,
    hall⟩ := offsetGroup_ok h
  have hgroups := containerGroups_eq hraw htarget
  obtain ⟨htable, hformula⟩ := offsetBlock_table hoffset
  have hchildren := rawChildren_eq hactions
  refine ⟨fun known => ?_, ?_, ?_⟩
  · rw [hgroups]
    cases htab : hasTable m with
    | false =>
      have hne := hformula htab
      cases target <;> cases offset <;> simp_all [Action.explicitOverAll]
    | true =>
      obtain ⟨values, rfl, -⟩ := htable htab
      cases target <;> simp [Action.explicitOverAll, Target.groupIds]
  · cases htab : hasTable m with
    | false =>
      have hne := hformula htab
      cases offset <;> simp_all [Action.Distinct]
    | true =>
      obtain ⟨values, rfl, hnodup⟩ := htable htab
      simp [Action.Distinct, hnodup]
  · rw [hchildren]
    exact children_textual hall

/-- **The conditions on the raw action are those on the validated one.** -/
theorem canonicalAction_input {raw : Json} {a : Action} (h : canonicalAction raw = .ok a) :
    (∀ known, a.explicitOverAll known = explicitOverAll known raw) ∧
    (a.Distinct ↔ repeatsTableId raw = false) ∧ (a.Textual ↔ TextualParams raw) := by
  obtain ⟨m, hm, h⟩ := modern?_of_ok h
  rcases modernAction_cases h with ⟨hcont, h⟩ | ⟨hcont, hover, hdistinct, htextual⟩
  · obtain ⟨hover, hdistinct, htextual⟩ := container_input h
    refine ⟨fun known => ?_, ?_, ?_⟩
    · simp [explicitOverAll, hm, hcont, hover]
    · cases htab : hasTable m <;> simp [repeatsTableId, hm, hcont, hdistinct, htab]
    · simp [TextualParams, hm, hcont, htextual]
  · refine ⟨fun known => ?_, ?_, ?_⟩
    · simp [explicitOverAll, hm, hcont, hover]
    · simp [repeatsTableId, hm, hcont, hdistinct]
    · simp [TextualParams, hm, hcont, htextual]

end RaceLink.Scenes
