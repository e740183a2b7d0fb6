import RaceLink.Presets.Service
import RaceLink.Scenes.Loading

/-! Loading the preset file entry by entry, and what a written file gives back. -/
namespace RaceLink.Presets
open Python Library
open Scenes (File Env loadId loadNextId maxId named? named?_obj named?_some InTurn Written entriesOf
  SchemaReadable counterOf loadId_ok_iff)

/-! ### Params -/

theorem toByte_toNat (b : BitVec 8) : toByte (.int b.toNat) = .ok b := by
  show Except.ok (BitVec.ofInt 8 (b.toNat : Int)) = .ok b
  rw [BitVec.ofInt_natCast, BitVec.ofNat_toNat, BitVec.setWidth_eq]

theorem byteParam_json {raw : Json} {key : String} {x : Option (BitVec 8)}
    (h : paramOf raw key = .ok (byteJson x)) : byteParam raw key = .ok x := by
  cases x with
  | none => simp [byteParam, readParam, h, byteJson]
  | some b => simp [byteParam, readParam, h, byteJson, toByte_toNat]

theorem checkParam_json {raw : Json} {key : String} {x : Option Bool}
    (h : paramOf raw key = .ok (checkJson x)) : checkParam raw key = .ok x := by
  cases x with
  | none => simp [checkParam, readParam, h, checkJson]
  | some b => simp [checkParam, readParam, h, checkJson, Json.truthy]

theorem colorParam_json {raw : Json} {key : String} {x : Option Color}
    (h : paramOf raw key = .ok (colorJson x)) : colorParam raw key = .ok x := by
  cases x with
  | none => simp [colorParam, readParam, h, colorJson]
  | some c => simp [colorParam, readParam, h, colorJson, canonicalColor, toByte_toNat]

/-- Params come back from what they are written as. -/
theorem canonicalParams_toJson (p : Params) : canonicalParams p.toJson = .ok p := by
  show readParams p.toJson = .ok p
  simp only [readParams, ok_bind,
    show byteParam p.toJson "mode" = .ok p.mode from byteParam_json rfl,
    show byteParam p.toJson "speed" = .ok p.speed from byteParam_json rfl,
    show byteParam p.toJson "intensity" = .ok p.intensity from byteParam_json rfl,
    show byteParam p.toJson "custom1" = .ok p.custom1 from byteParam_json rfl,
    show byteParam p.toJson "custom2" = .ok p.custom2 from byteParam_json rfl,
    show byteParam p.toJson "custom3" = .ok p.custom3 from byteParam_json rfl,
    show checkParam p.toJson "check1" = .ok p.check1 from checkParam_json rfl,
    show checkParam p.toJson "check2" = .ok p.check2 from checkParam_json rfl,
    show checkParam p.toJson "check3" = .ok p.check3 from checkParam_json rfl,
    show byteParam p.toJson "palette" = .ok p.palette from byteParam_json rfl,
    show colorParam p.toJson "color1" = .ok p.color1 from colorParam_json rfl,
    show colorParam p.toJson "color2" = .ok p.color2 from colorParam_json rfl,
    show colorParam p.toJson "color3" = .ok p.color3 from colorParam_json rfl,
    show byteParam p.toJson "brightness" = .ok p.brightness from byteParam_json rfl]

theorem Params.dump_toJson (keyText : Key → String) (p : Params) : p.toJson.dump keyText = p.toJson := by
  have hbyte : ∀ x, (byteJson x).Textual := fun x => by cases x <;> exact trivial
  have hcheck : ∀ x, (checkJson x).Textual := fun x => by cases x <;> exact trivial
  have hcolor : ∀ x, (colorJson x).Textual := fun x => by
    cases x
    · exact trivial
    · simp [colorJson, Json.Textual, Json.TextualItems]
  refine (Json.dump_eq_self keyText _).mpr ?_
  simp [Params.toJson, dict, Json.Textual, Json.TextualFields, hbyte, hcheck, hcolor]

/-! ### Entries -/

def Preset.ident (preset : Preset) : Int × String := (preset.id, preset.key)

/-- A loaded preset holds what its entry says, and nothing of the other entries. -/
structure OwnPreset (now : String) (fields : Dict) (preset : Preset) : Prop where
  key : Dict.get fields "key" = .str preset.key
  label : Dict.get fields "label" = .str preset.label
  created : preset.created = (Dict.get fields "created").orElse (.str now)
  updated : preset.updated = (Dict.get fields "updated").orElse
    ((Dict.get fields "created").orElse (.str now))
  params : canonicalParams (Dict.get fields "params") = .ok preset.params
  flags : preset.flags = canonicalFlags (Dict.get fields "flags")

/-- The conversions the loader makes of an entry go through: no infinite id, params that
are accepted. -/
structure Convertible (fields : Dict) : Prop where
  id : (Dict.get fields "id").toInt ≠ .error .overflowError
  params : ∃ params, canonicalParams (Dict.get fields "params") = .ok params

theorem loadPresets_skip (now : String) (index : Nat) (used : List Int) {entry : Json}
    (h : named? entry = none) (rest : List Json) :
    loadPresets now index used (entry :: rest) = loadPresets now (index + 1) used rest := by
  cases entry with
  | obj fields =>
    rw [loadPresets]
    split
    · next hkey hlabel => simp [named?_obj hkey hlabel] at h
    · rfl
  | _ => rfl

/-- A named entry is loaded when its conversions go through, and then the rest. -/
theorem loadPresets_take {now : String} {index : Nat} {used used' : List Int} {entry : Json}
    {fields : Dict} (h : named? entry = some fields) {rest : List Json} {presets : List Preset} :
    loadPresets now index used (entry :: rest) = .ok (presets, used') ↔
      ∃ preset presets', presets = preset :: presets' ∧ OwnPreset now fields preset ∧
        loadId index used (Dict.get fields "id") = .ok preset.id ∧
        loadPresets now (index + 1) (preset.id :: used) rest = .ok (presets', used') := by
  obtain ⟨key, label, rfl, hkey, hlabel⟩ := named?_some h
  rw [loadPresets, hkey, hlabel]
  constructor
  · intro hload
    obtain ⟨id, hid, hload⟩ := bind_ok.mp hload
    obtain ⟨params, hparams, hload⟩ := bind_ok.mp hload
    obtain ⟨⟨presets', used''⟩, hrest, hload⟩ := bind_ok.mp hload
    cases hload
    exact ⟨_, presets', rfl, ⟨hkey, hlabel, rfl, rfl, hparams, rfl⟩, hid, hrest⟩
  · rintro ⟨preset, presets', rfl, hown, hid, hrest⟩
    obtain ⟨id, key', label', created, updated, params, flags⟩ := preset
    obtain ⟨hkey', hlabel', rfl, rfl, hparams, rfl⟩ := hown
    obtain rfl := Json.str.inj (hkey.symm.trans hkey')
    obtain rfl := Json.str.inj (hlabel.symm.trans hlabel')
    simp only [hid, hparams, hrest, ok_bind]

/-- **The loop goes through exactly when the conversions of every named entry do.** -/
theorem loadPresets_ok_iff (now : String) (index : Nat) (used : List Int) {raw : List Json} :
    (∃ answer, loadPresets now index used raw = .ok answer) ↔
      ∀ fields ∈ raw.filterMap named?, Convertible fields := by
  induction raw generalizing index used with
  | nil => simp [loadPresets]
  | cons entry rest ih =>
    cases h : named? entry with
    | none => rw [loadPresets_skip now index used h, List.filterMap_cons_none h, ih]
    | some fields =>
      rw [List.filterMap_cons_some h, List.forall_mem_cons]
      constructor
      · rintro ⟨⟨presets, used'⟩, hload⟩
        obtain ⟨preset, presets', rfl, hown, hid, hrest⟩ := (loadPresets_take h).mp hload
        exact ⟨⟨loadId_ok_iff.mp ⟨_, hid⟩, ⟨_, hown.params⟩⟩, (ih _ _).mp ⟨_, hrest⟩⟩
      · rintro ⟨hfields, hrest⟩
        obtain ⟨key, label, -, hkey, hlabel⟩ := named?_some h
        obtain ⟨id, hid⟩ := (loadId_ok_iff : _ ↔ (Dict.get fields "id").toInt ≠ _).mpr hfields.id
        obtain ⟨params, hparams⟩ := hfields.params
        obtain ⟨⟨presets, used'⟩, hload⟩ := (ih (index + 1) (id :: used)).mpr hrest
        exact ⟨(_ :: presets, used'), (loadPresets_take h).mpr
          ⟨⟨id, key, label, _, _, params, _⟩, presets, rfl, ⟨hkey, hlabel, rfl, rfl, hparams, rfl⟩,
            hid, hload⟩⟩

/-- What the loop loads, and the ids it has used by then. -/
theorem loadPresets_inTurn {now : String} {index : Nat} {used used' : List Int} {raw : List Json}
    {presets : List Preset} (h : loadPresets now index used raw = .ok (presets, used')) :
    InTurn (OwnPreset now) Preset.ident index used raw presets ∧
      used' = (presets.map Preset.id).reverse ++ used := by
  induction raw generalizing index used presets with
  | nil =>
    cases h
    exact ⟨.nil, rfl⟩
  | cons entry rest ih =>
    cases hnamed : named? entry with
    | none =>
      rw [loadPresets_skip now index used hnamed] at h
      exact ⟨.skip hnamed (ih h).1, (ih h).2⟩
    | some fields =>
      obtain ⟨preset, presets', rfl, hown, hid, hrest⟩ := (loadPresets_take hnamed).mp h
      obtain ⟨hturn, hused⟩ := ih hrest
      refine ⟨.take hnamed hown hown.key hid hturn, ?_⟩
      rw [hused, List.map_cons, List.reverse_cons, List.append_assoc, List.singleton_append]

/-- A document of an older schema that has a list of presets. -/
def Outdated : Json → Prop
  | .obj data => ∃ n raw, ((Dict.getD data "schema_version" (.int 0)).orElse (.int 0)).toInt = .ok n ∧
      Dict.get data "presets" = .arr raw ∧ n < SCHEMA_VERSION
  | _ => False

/-- A load of a document. -/
theorem load_doc {now : String} {data : Json} {presets : List Preset} {nextId : Int} {migrate : Bool}
    (h : load now (.doc data) = .ok (presets, nextId, migrate)) :
    SchemaReadable data ∧ InTurn (OwnPreset now) Preset.ident 0 [] (entriesOf "presets" data) presets ∧
      nextId = counterOf "presets" (presets.map Preset.id).reverse data ∧
      (migrate = true ↔ Outdated data) := by
  cases data with
  | obj data =>
    obtain ⟨schema, hschema, h⟩ := bind_ok.mp h
    refine ⟨⟨schema, hschema⟩, ?_⟩
    rw [entriesOf, counterOf, Outdated]
    cases hraw : Dict.get data "presets" with
    | arr raw =>
      simp only [hraw] at h
      obtain ⟨⟨presets', used⟩, hpresets, h⟩ := bind_ok.mp h
      cases h
      obtain ⟨hturn, hused⟩ := loadPresets_inTurn hpresets
      exact ⟨hturn, by rw [hused, List.append_nil], by simp [hschema]⟩
    | _ =>
      simp only [hraw] at h
      cases h
      refine ⟨.nil, rfl, iff_of_false Bool.false_ne_true fun houtdated => ?_⟩
      obtain ⟨_, _, _, heq, -⟩ := houtdated
      cases heq
  | _ =>
    cases h
    exact ⟨trivial, .nil, rfl, iff_of_false Bool.false_ne_true id⟩

/-- **A document is read exactly when the schema version and every named entry are readable.** -/
theorem load_ok_iff (now : String) (data : Json) :
    (∃ answer, load now (.doc data) = .ok answer) ↔ SchemaReadable data ∧
      ∀ fields ∈ (entriesOf "presets" data).filterMap named?, Convertible fields := by
  cases data with
  | obj data =>
    rw [load, SchemaReadable, entriesOf]
    cases hschema : ((Dict.getD data "schema_version" (.int 0)).orElse (.int 0)).toInt with
    | error e => simp
    | ok schema =>
      simp only [ok_bind, Except.ok.injEq, exists_eq', true_and]
      cases hraw : Dict.get data "presets" with
      | arr raw =>
        exact Iff.trans (exists_bind_ok fun loaded => ⟨_, rfl⟩) (loadPresets_ok_iff now 0 [])
      | _ => exact iff_of_true ⟨_, rfl⟩ (by simp)
  | _ => exact iff_of_true ⟨_, rfl⟩ ⟨trivial, by simp [entriesOf]⟩

end RaceLink.Presets
