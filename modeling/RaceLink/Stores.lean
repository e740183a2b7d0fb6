import RaceLink.Presets.Failures
import RaceLink.Scenes.Failures

/-! The two stores side by side: what a load makes of any document, and what ids and
keys are worth over a lifetime. -/
namespace RaceLink.Stores
open Python Library
open Scenes (File Env named? entriesOf SchemaReadable OwnIds)

/-! ### Loading is local, up to the conversions nobody catches -/

/-- The scene store is read: each named entry gives one scene with its own content, and its
own id unless an entry before has it. -/
def ScenesLocal (now : String) (data : Json) : Prop :=
  ∃ scenes s, Scenes.items now (.fresh (.doc data)) = (.ok scenes, s) ∧
    List.Forall₂ (Scenes.OwnScene now) ((entriesOf "scenes" data).filterMap named?) scenes ∧
    OwnIds Scenes.Scene.ident [] ((entriesOf "scenes" data).filterMap named?) scenes

/-- The preset store is read, as the scene store is. -/
def PresetsLocal (keyText : Key → String) (env : Env) (data : Json) : Prop :=
  ∃ presets s, Presets.items keyText env (.fresh (.doc data)) = (.ok presets, s) ∧
    List.Forall₂ (Presets.OwnPreset env.now) ((entriesOf "presets" data).filterMap named?) presets ∧
    OwnIds Presets.Preset.ident [] ((entriesOf "presets" data).filterMap named?) presets

theorem scenesLocal_iff {now : String} {data : Json} :
    ScenesLocal now data ↔ SchemaReadable data ∧
      ∀ fields ∈ (entriesOf "scenes" data).filterMap named?, Scenes.Convertible fields := by
  rw [← Scenes.load_ok_iff now data]
  constructor
  · rintro ⟨scenes, s, h, -⟩
    cases hload : Scenes.load now (.doc data) with
    | ok answer => exact ⟨answer, rfl⟩
    | error e => simp [Scenes.items, Scenes.Service.fresh, hload] at h
  · rintro ⟨⟨scenes, nextId⟩, hload⟩
    obtain ⟨-, hturn, -⟩ := Scenes.load_doc hload
    refine ⟨scenes, ⟨.doc data, some scenes, some nextId⟩, ?_, hturn.contents, hturn.ownIds⟩
    simp [Scenes.items, Scenes.Service.fresh, hload]

/-- A new preset service answers with what was loaded, unless that has to be written back first. -/
theorem presets_items_fresh {keyText : Key → String} {env : Env} {data : Json}
    {presets : List Presets.Preset} {nextId : Int} {migrate : Bool}
    (hload : Presets.load env.now (.doc data) = .ok (presets, nextId, migrate))
    (Q : List Presets.Preset → Prop) :
    (∃ answer s, Presets.items keyText env (.fresh (.doc data)) = (.ok answer, s) ∧ Q answer) ↔
      Q presets ∧ (migrate = true → env.writable = true) := by
  cases migrate <;> cases hwritable : env.writable <;>
    simp [Presets.items, Presets.Service.fresh, hload, Presets.writeAtomic, hwritable]

theorem presetsLocal_iff {keyText : Key → String} {env : Env} {data : Json} :
    PresetsLocal keyText env data ↔ SchemaReadable data ∧
      (∀ fields ∈ (entriesOf "presets" data).filterMap named?, Presets.Convertible fields) ∧
      (Presets.Outdated data → env.writable = true) := by
  rw [← and_assoc, ← Presets.load_ok_iff env.now data]
  cases hload : Presets.load env.now (.doc data) with
  | error e => simp [PresetsLocal, Presets.items, Presets.Service.fresh, hload]
  | ok answer =>
    obtain ⟨presets, nextId, migrate⟩ := answer
    obtain ⟨-, hturn, -, hmigrate⟩ := Presets.load_doc hload
    rw [PresetsLocal, presets_items_fresh hload, hmigrate]
    exact ⟨fun h => ⟨⟨_, rfl⟩, h.2⟩, fun h => ⟨⟨hturn.contents, hturn.ownIds⟩, h.2⟩⟩

/-- A scene entry with the scope `scope`. -/
def sceneEntry (key : String) (scope : Json) : Json :=
  dict [("key", .str key), ("label", .str key), ("actions", .arr []), ("network_scope", scope)]

/-- A scene file with one entry of a scope mode that no host knows, beside a sound one. -/
def newerScenes : Json :=
  dict [("schema_version", .int 1), ("next_id", .int 2),
    ("scenes", .arr [sceneEntry "a" (dict [("mode", .str "all")]), sceneEntry "b" .null])]

/-- A preset file with a color that is no list, beside a sound entry. -/
def editedPresets : Json :=
  dict [("schema_version", .int 2), ("next_id", .int 2),
    ("presets", .arr [
      dict [("key", .str "a"), ("label", .str "a"), ("params", dict [("color1", .str "#ff0000")])],
      dict [("key", .str "b"), ("label", .str "b"), ("params", dict [("mode", .int 1)])]])]

/-- **In both stores, as long as every entry that is created finds the file writable, ids and keys
are distinct in every state, no id is given twice, and an update changes neither.** -/
theorem stores_lifetime (keyText : Key → String) (now : String) :
    (∀ file, Scenes.Startable file → ∀ events,
      Along (Scenes.Service.step keyText) (fun s e => e.Saves s) (.fresh file) events →
      Lifelong (Scenes.view now) (Scenes.Service.step keyText) (.fresh file) events ∧
      ∀ before env key args, events = before ++ [⟨env, .call (.update key args)⟩] →
        Scenes.view now (events.foldl (Scenes.Service.step keyText) (.fresh file)) =
          Scenes.view now (before.foldl (Scenes.Service.step keyText) (.fresh file))) ∧
    (∀ file, Presets.Startable file → ∀ events,
      Along (Presets.Service.step keyText) (fun s e => e.Saves keyText s) (.fresh file) events →
      Lifelong (Presets.view keyText now) (Presets.Service.step keyText) (.fresh file) events ∧
      ∀ before env key args, events = before ++ [⟨env, .update key args⟩] →
        Presets.view keyText now (events.foldl (Presets.Service.step keyText) (.fresh file)) =
          Presets.view keyText now (before.foldl (Presets.Service.step keyText) (.fresh file))) :=
  ⟨fun _ hfile _ hsaves => Scenes.lifetime hfile hsaves now,
    fun _ hfile _ hsaves => Presets.lifetime hfile hsaves now⟩

def diskFull : Env := ⟨"2026-01-01T00:00:00Z", false, none⟩
def diskFree : Env := ⟨"2026-01-01T00:00:01Z", true, none⟩

/-- "A" is created while the disk is full; after a restart "B" is created. -/
def createdTwice : List Scenes.Event :=
  [⟨diskFull, .call (.create {label := "A", actions := .null})⟩, ⟨diskFull, .restart⟩,
    ⟨diskFree, .call (.create {label := "B", actions := .null})⟩]

def presetsCreatedTwice : List Presets.Event :=
  [⟨diskFull, .create {label := "A"}⟩, ⟨diskFull, .restart⟩, ⟨diskFree, .create {label := "B"}⟩]

/-- "B" gets the id that "A" had. -/
theorem id_given_twice :
    ¬ Lifelong (Scenes.view "now") (Scenes.Service.step fun _ => "") (.fresh .missing) createdTwice ∧
    ¬ Lifelong (Presets.view (fun _ => "") "now") (Presets.Service.step fun _ => "") (.fresh .missing)
      presetsCreatedTwice := by
  constructor
  · intro h
    have hlast := h.fresh (createdTwice.take 2) _ rfl (0, "b") (by decide +kernel)
    rcases hlast with hbefore | hnever
    · revert hbefore
      decide +kernel
    · exact hnever (createdTwice.take 1) ⟨_, rfl⟩ (by decide +kernel)
  · intro h
    have hlast := h.fresh (presetsCreatedTwice.take 2) _ rfl (0, "b") (by decide +kernel)
    rcases hlast with hbefore | hnever
    · revert hbefore
      decide +kernel
    · exact hnever (presetsCreatedTwice.take 1) ⟨_, rfl⟩ (by decide +kernel)

/-- With room on the disk the ids stay apart, also over the restart and a deletion. -/
theorem ids_apart_on_free_disk :
    (Lifelong (Scenes.view "now") (Scenes.Service.step fun _ => "") (.fresh .missing)
      [⟨diskFree, .call (.create {label := "A", actions := .null})⟩, ⟨diskFree, .call (.delete "a")⟩,
        ⟨diskFull, .restart⟩, ⟨diskFree, .call (.create {label := "B", actions := .null})⟩]) ∧
    Lifelong (Presets.view (fun _ => "") "now") (Presets.Service.step fun _ => "") (.fresh .missing)
      [⟨diskFree, .create {label := "A"}⟩, ⟨diskFull, .restart⟩, ⟨diskFree, .create {label := "B"}⟩] := by
  obtain ⟨hscenes, hpresets⟩ := stores_lifetime (fun _ => "") "now"
  refine ⟨(hscenes .missing (fun _ => ⟨[], 0, rfl, List.nodup_nil⟩) _ ?_).1,
    (hpresets .missing (fun _ => ⟨[], 0, false, rfl, List.nodup_nil⟩) _ ?_).1⟩
  · exact ⟨fun _ => rfl, trivial, trivial, fun _ => rfl, trivial⟩
  · exact ⟨fun _ => rfl, trivial, fun _ => rfl, trivial⟩

/-! ### Calls that raise -/

/-- **In both stores, from any state, an event that raises leaves the list and the file as they
were exactly when it is not a creation whose write failed.** -/
theorem failed_events_intact (keyText : Key → String) :
    (∀ (s : Scenes.Service) (e : Scenes.Event), e.Raises keyText s →
      (Scenes.Intact e.env.now s (s.step keyText e) ↔ e.Saves s)) ∧
    ∀ (s : Presets.Service) (e : Presets.Event), e.Raises keyText s →
      (Presets.Intact keyText e.env s (s.step keyText e) ↔ e.Saves keyText s) :=
  ⟨fun _ _ hraises => Scenes.raises_intact_iff hraises,
    fun _ _ hraises => Presets.raises_intact_iff hraises⟩

/-- Of two events that raise on an empty store, the one refused for its label shows nothing. -/
theorem unlabelled_intact :
    Scenes.Intact diskFree.now (.fresh .missing)
      (Scenes.Service.step (fun _ => "") (.fresh .missing)
        ⟨diskFree, .call (.create {label := " ", actions := .null})⟩) ∧
    Presets.Intact (fun _ => "") diskFree (.fresh .missing)
      (Presets.Service.step (fun _ => "") (.fresh .missing) ⟨diskFree, .create {label := " "}⟩) := by
  obtain ⟨hscenes, hpresets⟩ := failed_events_intact (fun _ => "")
  exact ⟨(hscenes (.fresh .missing) ⟨diskFree, .call (.create {label := " ", actions := .null})⟩
      ⟨.valueError "label is required" [], by decide +kernel⟩).mpr fun _ => rfl,
    (hpresets (.fresh .missing) ⟨diskFree, .create {label := " "}⟩
      ⟨.valueError "label is required" [], by decide +kernel⟩).mpr fun _ => rfl⟩

/-- "A" is created while the disk is full: both calls raise, and both lists show it. -/
theorem unsaved_entry_listed :
    (Scenes.Event.Raises (fun _ => "") (.fresh .missing)
        ⟨diskFull, .call (.create {label := "A", actions := .null})⟩ ∧
      ¬ Scenes.Intact diskFull.now (.fresh .missing)
        (Scenes.Service.step (fun _ => "") (.fresh .missing)
          ⟨diskFull, .call (.create {label := "A", actions := .null})⟩)) ∧
    Presets.Event.Raises (fun _ => "") (.fresh .missing) ⟨diskFull, .create {label := "A"}⟩ ∧
      ¬ Presets.Intact (fun _ => "") diskFull (.fresh .missing)
        (Presets.Service.step (fun _ => "") (.fresh .missing) ⟨diskFull, .create {label := "A"}⟩) := by
  refine ⟨⟨⟨.osError, by decide +kernel⟩, fun h => ?_⟩, ⟨.osError, by decide +kernel⟩, fun h => ?_⟩
  · exact absurd h.listed (by decide +kernel)
  · exact absurd h.listed (by decide +kernel)

end RaceLink.Stores
