import RaceLink.Scenes.Persistence

/-! Loading a store file entry by entry, for the scenes and for the presets.

Both loaders walk through the entries of a list, skip those without a key and a
label, and give each of the others an id that no entry before it has (`InTurn`). From
that follow the distinct ids, the counter above them, and that a list written with
distinct ids is read with the same ones. -/
namespace RaceLink.Scenes
open Python Library

/-- The dict of an entry that has a key and a label. -/
def named? : Json → Option Dict
  | .obj fields =>
    match Dict.get fields "key", Dict.get fields "label" with
    | .str _, .str _ => some fields
    | _, _ => none
  | _ => none

theorem named?_obj {fields : Dict} {key label : String} (hkey : Dict.get fields "key" = .str key)
    (hlabel : Dict.get fields "label" = .str label) : named? (.obj fields) = some fields := by
  simp only [named?, hkey, hlabel]

/-! ### Ids -/

theorem le_foldl_max (ids : List Int) (start : Int) :
    start ≤ ids.foldl max start ∧ ∀ id ∈ ids, id ≤ ids.foldl max start := by
  induction ids generalizing start with
  | nil => simp
  | cons first rest ih =>
    obtain ⟨hstart, hrest⟩ := ih (max start first)
    refine ⟨by rw [List.foldl_cons]; omega, fun id hid => ?_⟩
    rw [List.foldl_cons]
    rcases List.mem_cons.mp hid with rfl | hid
    · omega
    · exact hrest id hid

theorem le_maxId {ids : List Int} {id : Int} (h : id ∈ ids) : id ≤ maxId ids := by
  cases ids with
  | nil => cases h
  | cons first rest =>
    obtain ⟨hfirst, hrest⟩ := le_foldl_max rest first
    rcases List.mem_cons.mp h with rfl | h
    · exact hfirst
    · exact hrest id h

theorem foldl_max_lt {ids : List Int} {start n : Int} (hstart : start < n)
    (h : ∀ id ∈ ids, id < n) : ids.foldl max start < n := by
  induction ids generalizing start with
  | nil => exact hstart
  | cons first rest ih =>
    have hfirst := h first (List.mem_cons_self ..)
    exact ih (by omega) fun id hid => h id (List.mem_cons_of_mem _ hid)

/-- The counter of a loaded file is above the ids, whatever the file says. -/
theorem lt_loadNextId (raw : Json) {used : List Int} {id : Int} (h : id ∈ used) :
    id < loadNextId raw used := by
  have hmax := le_maxId h
  unfold loadNextId
  split
  · split <;> omega
  · split <;> omega
  · omega

/-- A counter above the ids is not lowered by a load. -/
theorem le_loadNextId {n : Int} {used : List Int} (h : ∀ id ∈ used, id < n) :
    n ≤ loadNextId (.int n) used := by
  show n ≤ if n > maxId used then n else maxId used + 1
  split
  · exact Int.le_refl _
  · next hle =>
    cases used with
    | nil =>
      have hmax : maxId [] = -1 := rfl
      omega
    | cons first rest =>
      have hmax : maxId (first :: rest) < n :=
        foldl_max_lt (h first (List.mem_cons_self ..)) fun id hid => h id (List.mem_cons_of_mem _ hid)
      omega

/-- As long as ids are taken, the search has gone through all of them. -/
theorem freeId_taken {used : List Int} {rounds : Nat} {id : Int}
    (h : freeId used rounds id ∈ used) : ∀ k : Nat, k ≤ rounds → id + k ∈ used := by
  induction rounds generalizing id with
  | zero =>
    intro k hk
    obtain rfl : k = 0 := by omega
    simpa [freeId] using h
  | succ rounds ih =>
    unfold freeId at h
    split at h
    · next hid =>
      intro k hk
      cases k with
      | zero => simpa using hid
      | succ k =>
        have hk' := ih h k (by omega)
        rwa [show id + ((k + 1 : Nat) : Int) = id + 1 + k by omega]
    · next hid => exact absurd h hid

/-- The search ends at an id that is not taken. -/
theorem freeId_not_mem (used : List Int) (id : Int) : freeId used used.length id ∉ used := by
  intro h
  have htaken := freeId_taken h
  have hnodup : ((List.range (used.length + 1)).map fun k : Nat => id + k).Nodup :=
    List.nodup_range.map fun a b (hab : id + (a : Int) = id + b) => by omega
  have hsubset : ((List.range (used.length + 1)).map fun k : Nat => id + k) ⊆ used := by
    intro n hn
    obtain ⟨k, hk, rfl⟩ := List.mem_map.mp hn
    exact htaken k (by simpa [Nat.lt_succ_iff] using hk)
  have hlength := hnodup.length_le_of_subset hsubset
  rw [List.length_map, List.length_range] at hlength
  omega

theorem freeId_of_not_mem {used : List Int} {id : Int} (h : id ∉ used) (rounds : Nat) :
    freeId used rounds id = id := by
  cases rounds with
  | zero => rfl
  | succ rounds => rw [freeId, if_neg h]

/-- The id an entry asks for: its own, or its place in the file. -/
def wantedId (index : Nat) (raw : Json) : Except PyError Int :=
  match raw.toInt with
  | .error .overflowError => .error .overflowError
  | .error _ => .ok index
  | .ok n => .ok n

theorem loadId_eq (index : Nat) (used : List Int) (raw : Json) :
    loadId index used raw = (wantedId index raw).map (freeId used used.length) := by
  cases raw with
  | null => rfl
  | _ =>
    unfold loadId wantedId
    dsimp only
    generalize Json.toInt _ = answer
    cases answer with
    | ok n => rfl
    | error e => cases e <;> rfl

theorem loadId_fresh {index : Nat} {used : List Int} {raw : Json} {id : Int}
    (h : loadId index used raw = .ok id) : id ∉ used := by
  rw [loadId_eq] at h
  cases hw : wantedId index raw with
  | error e =>
    rw [hw] at h
    cases h
  | ok own =>
    rw [hw] at h
    cases h
    exact freeId_not_mem used own

/-- An entry keeps an id of its own that no entry before it has. -/
theorem loadId_own {index : Nat} {used : List Int} {raw : Json} {n : Int} (hraw : raw.toInt = .ok n)
    (hn : n ∉ used) : loadId index used raw = .ok n := by
  rw [loadId_eq, wantedId, hraw]
  exact congrArg Except.ok (freeId_of_not_mem hn _)

/-- Only an infinite id stops the loader. -/
theorem loadId_ok_iff {index : Nat} {used : List Int} {raw : Json} :
    (∃ id, loadId index used raw = .ok id) ↔ raw.toInt ≠ .error .overflowError := by
  rw [loadId_eq, wantedId]
  cases raw.toInt with
  | ok n => exact iff_of_true ⟨_, rfl⟩ nofun
  | error e => cases e <;> simp [Except.map]

/-! ### Entry after entry -/

section InTurn
variable {E : Type} (own : Dict → E → Prop) (ident : E → Int × String)

/-- What a loader makes of a list: from each named entry one element that has its `own`
content and its key, with an id that is not `used` yet. -/
inductive InTurn : Nat → List Int → List Json → List E → Prop
  | nil {index used} : InTurn index used [] []
  | skip {index used entry rest out} : named? entry = none →
      InTurn (index + 1) used rest out → InTurn index used (entry :: rest) out
  | take {index used entry rest out fields e} : named? entry = some fields → own fields e →
      Dict.get fields "key" = .str (ident e).2 →
      loadId index used (Dict.get fields "id") = .ok (ident e).1 →
      InTurn (index + 1) ((ident e).1 :: used) rest out → InTurn index used (entry :: rest) (e :: out)

variable {own ident} {index : Nat} {used : List Int} {raw : List Json} {out : List E}

/-- The elements are made of the named entries, in their order. -/
theorem InTurn.contents (h : InTurn own ident index used raw out) :
    List.Forall₂ own (raw.filterMap named?) out := by
  induction h with
  | nil => exact .nil
  | skip hentry _ ih => rwa [List.filterMap_cons_none hentry]
  | take hentry hown _ _ _ ih =>
    rw [List.filterMap_cons_some hentry]
    exact .cons hown ih

theorem InTurn.ids (h : InTurn own ident index used raw out) :
    ((out.map ident).map Prod.fst).Nodup ∧ ∀ e ∈ out, (ident e).1 ∉ used := by
  induction h with
  | nil => exact ⟨List.nodup_nil, by simp⟩
  | skip _ _ ih => exact ih
  | @take index used entry rest out fields e _ _ _ hid _ ih =>
    obtain ⟨hnodup, hfresh⟩ := ih
    refine ⟨List.nodup_cons.mpr ⟨fun hmem => ?_, hnodup⟩, fun e' he' => ?_⟩
    · rw [List.map_map] at hmem
      obtain ⟨e', he', heq⟩ := List.mem_map.mp hmem
      exact hfresh e' he' (List.mem_cons.mpr (.inl heq))
    · rcases List.mem_cons.mp he' with rfl | he'
      · exact loadId_fresh hid
      · exact fun hused => hfresh e' he' (List.mem_cons_of_mem _ hused)

/-- Ids and keys do not depend on what else is read. -/
theorem InTurn.idents_eq {own' : Dict → E → Prop} {out' : List E}
    (h : InTurn own ident index used raw out) (h' : InTurn own' ident index used raw out') :
    out'.map ident = out.map ident := by
  induction h generalizing out' with
  | nil =>
    cases h'
    rfl
  | skip hentry _ ih =>
    cases h' with
    | skip _ hrest => exact ih hrest
    | take hentry' => simp [hentry] at hentry'
  | take hentry _ hkey hid _ ih =>
    cases h' with
    | skip hentry' => simp [hentry] at hentry'
    | take hentry' _ hkey' hid' hrest =>
      obtain rfl := Option.some.inj (hentry.symm.trans hentry')
      have heq := Prod.ext (Except.ok.inj (hid'.symm.trans hid)) (Json.str.inj (hkey'.symm.trans hkey))
      rw [heq] at hrest
      rw [List.map_cons, List.map_cons, heq, ih hrest]

/-- An entry as a store writes it. -/
def Written (entry : Json) (e : Int × String) : Prop :=
  ∃ fields, named? entry = some fields ∧ Dict.get fields "id" = .int e.1 ∧
    Dict.get fields "key" = .str e.2

/-- **Entries written with distinct ids are read with the same ids and keys.** -/
theorem InTurn.stored {entries : List (Int × String)} (hraw : List.Forall₂ Written raw entries)
    (hnodup : (entries.map Prod.fst).Nodup) (hused : ∀ e ∈ entries, e.1 ∉ used)
    (h : InTurn own ident index used raw out) : out.map ident = entries := by
  induction hraw generalizing index used out with
  | nil =>
    cases h
    rfl
  | @cons entry e rest entries hentry _ ih =>
    obtain ⟨fields, hnamed, hid, hkey⟩ := hentry
    obtain ⟨he, hnodup⟩ := List.nodup_cons.mp hnodup
    cases h with
    | skip hnone => simp [hnamed] at hnone
    | take hentry' _ hkey' hid' hrest =>
      obtain rfl := Option.some.inj (hnamed.symm.trans hentry')
      rw [hid, loadId_own rfl (hused e (List.mem_cons_self ..))] at hid'
      have heq := Prod.ext (Except.ok.inj hid').symm (Json.str.inj (hkey'.symm.trans hkey))
      rw [heq] at hrest
      rw [List.map_cons, heq, ih hnodup (fun e' he' hmem => ?_) hrest]
      rcases List.mem_cons.mp hmem with heq' | hmem
      · exact he (List.mem_map.mpr ⟨e', he', heq'⟩)
      · exact hused e' (List.mem_cons_of_mem _ he') hmem

/-- The elements got the ids their entries have, unless an entry before got the same. -/
def OwnIds (ident : E → Int × String) : List Int → List Dict → List E → Prop
  | used, fields :: rest, e :: out =>
    (∀ n, (Dict.get fields "id").toInt = .ok n → (ident e).1 = n ∨ n ∈ used) ∧
      OwnIds ident ((ident e).1 :: used) rest out
  | _, [], [] => True
  | _, _, _ => False

theorem InTurn.ownIds (h : InTurn own ident index used raw out) :
    OwnIds ident used (raw.filterMap named?) out := by
  induction h with
  | nil => trivial
  | skip hentry _ ih => rwa [List.filterMap_cons_none hentry]
  | @take index used entry rest out fields e hentry _ _ hid _ ih =>
    rw [List.filterMap_cons_some hentry]
    refine ⟨fun n hn => ?_, ih⟩
    by_cases hused : n ∈ used
    · exact .inr hused
    · rw [loadId_own hn hused] at hid
      exact .inl (Except.ok.inj hid).symm

end InTurn

/-! ### Scenes -/

def Scene.ident (scene : Scene) : Int × String := (scene.id, scene.key)

/-- A loaded scene holds what its entry says, and nothing of the other entries. -/
structure OwnScene (now : String) (fields : Dict) (scene : Scene) : Prop where
  key : Dict.get fields "key" = .str scene.key
  label : Dict.get fields "label" = .str scene.label
  created : scene.created = (Dict.get fields "created").orElse (.str now)
  updated : scene.updated = (Dict.get fields "updated").orElse
    ((Dict.get fields "created").orElse (.str now))
  actions : loadActions (Dict.get fields "actions") = .ok scene.actions
  stopOnError : scene.stopOnError = coerceBool (Dict.get fields "stop_on_error") true
  networkScope : canonicalNetworkScope (Dict.get fields "network_scope") = .ok scene.networkScope

/-- The conversions the loader makes of an entry go through: no infinite id, no actions that
are refused by another exception than a `ValueError`, a network scope that is accepted. -/
structure Convertible (fields : Dict) : Prop where
  id : (Dict.get fields "id").toInt ≠ .error .overflowError
  actions : ∀ e, canonicalActions (Dict.get fields "actions") = .error e →
    ∃ text args, e = .valueError text args
  networkScope : ∃ scope, canonicalNetworkScope (Dict.get fields "network_scope") = .ok scope

theorem loadActions_ok_iff {raw : Json} : (∃ actions, loadActions raw = .ok actions) ↔
    ∀ e, canonicalActions raw = .error e → ∃ text args, e = .valueError text args := by
  unfold loadActions
  cases h : canonicalActions raw with
  | ok actions => simp
  | error e => cases e <;> simp


theorem named?_some {entry : Json} {fields : Dict} (h : named? entry = some fields) :
    ∃ key label, entry = .obj fields ∧ Dict.get fields "key" = .str key ∧
      Dict.get fields "label" = .str label := by
  unfold named? at h
  split at h
  · split at h
    · next key label hkey hlabel =>
      cases h
      exact ⟨key, label, rfl, hkey, hlabel⟩
    · cases h
  · cases h

theorem loadScenes_skip (now : String) (index : Nat) (used : List Int) {entry : Json}
    (h : named? entry = none) (rest : List Json) :
    loadScenes now index used (entry :: rest) = loadScenes now (index + 1) used rest := by
  cases entry with
  | obj fields =>
    rw [loadScenes]
    split
    · next hkey hlabel => simp [named?_obj hkey hlabel] at h
    · rfl
  | _ => rfl

/-- A named entry is loaded when its conversions go through, and then the rest. -/
theorem loadScenes_take {now : String} {index : Nat} {used used' : List Int} {entry : Json}
    {fields : Dict} (h : named? entry = some fields) {rest : List Json} {scenes : List Scene} :
    loadScenes now index used (entry :: rest) = .ok (scenes, used') ↔
      ∃ scene scenes', scenes = scene :: scenes' ∧ OwnScene now fields scene ∧
        loadId index used (Dict.get fields "id") = .ok scene.id ∧
        loadScenes now (index + 1) (scene.id :: used) rest = .ok (scenes', used') := by
  obtain ⟨key, label, rfl, hkey, hlabel⟩ := named?_some h
  rw [loadScenes, hkey, hlabel]
  constructor
  · intro hload
    obtain ⟨id, hid, hload⟩ := bind_ok.mp hload
    obtain ⟨actions, hactions, hload⟩ := bind_ok.mp hload
    obtain ⟨scope, hscope, hload⟩ := bind_ok.mp hload
    obtain ⟨⟨scenes', used''⟩, hrest, hload⟩ := bind_ok.mp hload
    cases hload
    exact ⟨_, scenes', rfl, ⟨hkey, hlabel, rfl, rfl, hactions, rfl, hscope⟩, hid, hrest⟩
  · rintro ⟨scene, scenes', rfl, hown, hid, hrest⟩
    obtain ⟨id, key', label', created, updated, actions, stopOnError, scope⟩ := scene
    obtain ⟨hkey', hlabel', rfl, rfl, hactions, rfl, hscope⟩ := hown
    obtain rfl := Json.str.inj (hkey.symm.trans hkey')
    obtain rfl := Json.str.inj (hlabel.symm.trans hlabel')
    simp only [hid, hactions, hscope, hrest, ok_bind]

/-- **The loop goes through exactly when the conversions of every named entry do.** -/
theorem loadScenes_ok_iff (now : String) (index : Nat) (used : List Int) {raw : List Json} :
    (∃ answer, loadScenes now index used raw = .ok answer) ↔
      ∀ fields ∈ raw.filterMap named?, Convertible fields := by
  induction raw generalizing index used with
  | nil => simp [loadScenes]
  | cons entry rest ih =>
    cases h : named? entry with
    | none => rw [loadScenes_skip now index used h, List.filterMap_cons_none h, ih]
    | some fields =>
      rw [List.filterMap_cons_some h, List.forall_mem_cons]
      constructor
      · rintro ⟨⟨scenes, used'⟩, hload⟩
        obtain ⟨scene, scenes', rfl, hown, hid, hrest⟩ := (loadScenes_take h).mp hload
        exact ⟨⟨loadId_ok_iff.mp ⟨_, hid⟩, loadActions_ok_iff.mp ⟨_, hown.actions⟩,
          ⟨_, hown.networkScope⟩⟩, (ih _ _).mp ⟨_, hrest⟩⟩
      · rintro ⟨hfields, hrest⟩
        obtain ⟨key, label, -, hkey, hlabel⟩ := named?_some h
        obtain ⟨id, hid⟩ := (loadId_ok_iff : _ ↔ (Dict.get fields "id").toInt ≠ _).mpr hfields.id
        obtain ⟨actions, hactions⟩ := loadActions_ok_iff.mpr hfields.actions
        obtain ⟨scope, hscope⟩ := hfields.networkScope
        obtain ⟨⟨scenes, used'⟩, hload⟩ := (ih (index + 1) (id :: used)).mpr hrest
        exact ⟨(_ :: scenes, used'), (loadScenes_take h).mpr
          ⟨⟨id, key, label, _, _, actions, _, scope⟩, scenes, rfl,
            ⟨hkey, hlabel, rfl, rfl, hactions, rfl, hscope⟩, hid, hload⟩⟩

/-- What the loop loads, and the ids it has used by then. -/
theorem loadScenes_inTurn {now : String} {index : Nat} {used used' : List Int} {raw : List Json}
    {scenes : List Scene} (h : loadScenes now index used raw = .ok (scenes, used')) :
    InTurn (OwnScene now) Scene.ident index used raw scenes ∧
      used' = (scenes.map Scene.id).reverse ++ used := by
  induction raw generalizing index used scenes with
  | nil =>
    cases h
    exact ⟨.nil, rfl⟩
  | cons entry rest ih =>
    cases hnamed : named? entry with
    | none =>
      rw [loadScenes_skip now index used hnamed] at h
      exact ⟨.skip hnamed (ih h).1, (ih h).2⟩
    | some fields =>
      obtain ⟨scene, scenes', rfl, hown, hid, hrest⟩ := (loadScenes_take hnamed).mp h
      obtain ⟨hturn, hused⟩ := ih hrest
      refine ⟨.take hnamed hown hown.key hid hturn, ?_⟩
      rw [hused, List.map_cons, List.reverse_cons, List.append_assoc, List.singleton_append]

/-- The entries under `name` in a store file; a document that has no such list has none. -/
def entriesOf (name : String) : Json → List Json
  | .obj data =>
    match Dict.get data name with
    | .arr raw => raw
    | _ => []
  | _ => []

/-- The `schema_version` of a document is a number, as far as `int` is concerned. -/
def SchemaReadable : Json → Prop
  | .obj data => ∃ n, ((Dict.getD data "schema_version" (.int 0)).orElse (.int 0)).toInt = .ok n
  | _ => True

/-- The counter a loader takes from a document with the list `name`. -/
def counterOf (name : String) (used : List Int) : Json → Int
  | .obj data =>
    match Dict.get data name with
    | .arr _ => loadNextId (Dict.get data "next_id") used
    | _ => 0
  | _ => 0

theorem lt_counterOf {E : Type} {own : Dict → E → Prop} {ident : E → Int × String} {name : String} {data : Json}
    {out : List E} (h : InTurn own ident 0 [] (entriesOf name data) out) {used : List Int} {id : Int}
    (hid : id ∈ used) (hused : used ⊆ (out.map ident).map Prod.fst) : id < counterOf name used data := by
  have hnone : entriesOf name data = [] → False := fun hnil => by
    rw [hnil] at h
    cases h
    exact absurd (hused hid) (by simp)
  unfold entriesOf at hnone
  unfold counterOf
  split
  · split
    · exact lt_loadNextId _ hid
    · next hlist => exact (hnone (by simp)).elim
  · exact (hnone (by simp)).elim

/-- A load of a document. -/
theorem load_doc {now : String} {data : Json} {scenes : List Scene} {nextId : Int}
    (h : load now (.doc data) = .ok (scenes, nextId)) :
    SchemaReadable data ∧ InTurn (OwnScene now) Scene.ident 0 [] (entriesOf "scenes" data) scenes ∧
      nextId = counterOf "scenes" (scenes.map Scene.id).reverse data := by
  cases data with
  | obj data =>
    obtain ⟨schema, hschema, h⟩ := bind_ok.mp h
    refine ⟨⟨schema, hschema⟩, ?_⟩
    rw [entriesOf, counterOf]
    cases hraw : Dict.get data "scenes" with
    | arr raw =>
      simp only [hraw] at h
      obtain ⟨⟨scenes', used⟩, hscenes, h⟩ := bind_ok.mp h
      cases h
      obtain ⟨hturn, hused⟩ := loadScenes_inTurn hscenes
      exact ⟨hturn, by rw [hused, List.append_nil]⟩
    | _ =>
      simp only [hraw] at h
      cases h
      exact ⟨.nil, rfl⟩
  | _ =>
    cases h
    exact ⟨trivial, .nil, rfl⟩

/-- **A document is loaded exactly when the schema version and every named entry are readable.** -/
theorem load_ok_iff (now : String) (data : Json) :
    (∃ answer, load now (.doc data) = .ok answer) ↔ SchemaReadable data ∧
      ∀ fields ∈ (entriesOf "scenes" data).filterMap named?, Convertible fields := by
  cases data with
  | obj data =>
    rw [load, SchemaReadable, entriesOf]
    cases hschema : ((Dict.getD data "schema_version" (.int 0)).orElse (.int 0)).toInt with
    | error e => simp
    | ok schema =>
      simp only [ok_bind, Except.ok.injEq, exists_eq', true_and]
      cases hraw : Dict.get data "scenes" with
      | arr raw =>
        exact Iff.trans (exists_bind_ok fun loaded => ⟨_, rfl⟩) (loadScenes_ok_iff now 0 [])
      | _ => exact iff_of_true ⟨_, rfl⟩ (by simp)
  | _ => exact iff_of_true ⟨_, rfl⟩ ⟨trivial, by simp [entriesOf]⟩

end RaceLink.Scenes
