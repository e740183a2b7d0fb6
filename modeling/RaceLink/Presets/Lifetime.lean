import RaceLink.Presets.Loading
import RaceLink.Scenes.Lifetime

/-! The ids and keys of the preset store over its lifetime, as for the scene store: calls,
bulk replacements and restarts advance a ledger, except a `create` whose write fails.

What a load writes back of an older file are the same ids, keys and counter. -/
namespace RaceLink.Presets
open Python Library
open Scenes (File Env loadId loadNextId maxId uniqueKey named? named?_obj named?_some InTurn Written
  entriesOf SchemaReadable counterOf lt_counterOf lt_loadNextId loadId_ok_iff reloadedCounter saved
  advance_saved importEntries importEntries_counter importEntries_claims forall₂_written mem_named
  uniqueKey_fresh)

/-! ### What a written file gives back -/

/-- A counter that a load computed is found again by the next load. -/
theorem loadNextId_again (raw : Json) (used : List Int) :
    loadNextId (.int (loadNextId raw used)) used = loadNextId raw used := by
  have hmax : loadNextId raw used > maxId used := by
    unfold loadNextId
    split
    · split <;> omega
    · split <;> omega
    · omega
  show (if loadNextId raw used > maxId used then _ else _) = _
  rw [if_pos hmax]

/-- A document with a list of presets under a counter. -/
def storeDoc (n : Int) (raw : List Json) : Json :=
  dict [("schema_version", .int SCHEMA_VERSION), ("next_id", .int n), ("presets", .arr raw)]

section Written
variable {keyText : Key → String}

theorem Preset.dump_toJson (preset : Preset) : preset.toJson.dump keyText =
    dict [("id", .int preset.id), ("key", .str preset.key), ("label", .str preset.label),
      ("created", preset.created.dump keyText), ("updated", preset.updated.dump keyText),
      ("params", preset.params.toJson), ("flags", preset.flags.dump keyText)] := by
  rw [Preset.toJson, Json.dump_dict keyText (by simp)]
  simp only [List.map_cons, List.map_nil, Json.dump, Params.dump_toJson]

theorem preset_written (preset : Preset) : Written (preset.toJson.dump keyText) preset.ident := by
  rw [Preset.dump_toJson]
  exact ⟨_, rfl, rfl, rfl⟩

theorem preset_convertible {preset : Preset} {fields : Dict}
    (hnamed : named? (preset.toJson.dump keyText) = some fields) : Convertible fields := by
  rw [Preset.dump_toJson] at hnamed
  cases hnamed
  exact ⟨nofun, ⟨_, canonicalParams_toJson preset.params⟩⟩

theorem dump_payload (n : Int) (presets : List Preset) : (payload (some n) presets).dump keyText =
    storeDoc n (presets.map fun preset => preset.toJson.dump keyText) := by
  rw [payload, Json.dump_dict keyText (by simp)]
  simp only [List.map_cons, List.map_nil, Json.dump_arr, List.map_map]
  rfl

/-- Presets written with distinct ids are loaded with the same ids and keys. -/
theorem load_payload (keyText : Key → String) (n : Int) {presets : List Preset}
    (hnodup : ((presets.map Preset.ident).map Prod.fst).Nodup) (now : String) :
    ∃ presets', load now (.doc ((payload (some n) presets).dump keyText)) =
        .ok (presets', reloadedCounter n (presets.map Preset.ident), false) ∧
      presets'.map Preset.ident = presets.map Preset.ident := by
  rw [dump_payload]
  generalize hraw : (presets.map fun preset => preset.toJson.dump keyText) = raw
  have hwritten : List.Forall₂ Written raw (presets.map Preset.ident) :=
    hraw ▸ forall₂_written preset_written presets
  have hconvertible : ∀ fields ∈ raw.filterMap named?, Convertible fields := fun fields hfields => by
    rw [← hraw] at hfields
    obtain ⟨preset, -, hnamed⟩ := mem_named hfields
    exact preset_convertible hnamed
  obtain ⟨⟨presets', nextId, migrate⟩, hload⟩ :=
    (load_ok_iff now (storeDoc n raw)).mpr ⟨⟨SCHEMA_VERSION, rfl⟩, hconvertible⟩
  obtain ⟨-, hturn, rfl, hmigrate⟩ := load_doc hload
  have hnew : migrate = false := by
    cases migrate with
    | false => rfl
    | true =>
      obtain ⟨v, list, hv, -, hlt⟩ := hmigrate.mp rfl
      cases hv
      exact absurd hlt (by decide)
  have hidents : presets'.map Preset.ident = presets.map Preset.ident :=
    hturn.stored hwritten hnodup (by simp)
  have hids : presets'.map Preset.id = (presets.map Preset.ident).map Prod.fst := by
    rw [← hidents, List.map_map]
    rfl
  refine ⟨presets', ?_, hidents⟩
  rw [hload, hids, hnew]
  rfl

end Written

/-- A load gives distinct ids below the counter, and the same at any time. -/
theorem load_idents {now : String} {file : File} {presets : List Preset} {nextId : Int} {migrate : Bool}
    (h : load now file = .ok (presets, nextId, migrate)) :
    ((presets.map Preset.ident).map Prod.fst).Nodup ∧
    (∀ e ∈ presets.map Preset.ident, e.1 < nextId) ∧
    ∀ {now' presets' nextId' migrate'}, load now' file = .ok (presets', nextId', migrate') →
      nextId' = nextId ∧ presets'.map Preset.ident = presets.map Preset.ident := by
  have hids : ∀ out : List Preset, out.map Preset.id = (out.map Preset.ident).map Prod.fst :=
    fun out => by
      rw [List.map_map]
      rfl
  cases file with
  | doc data =>
    obtain ⟨-, hturn, rfl, -⟩ := load_doc h
    refine ⟨hturn.ids.1, fun e he => ?_, fun h' => ?_⟩
    · refine lt_counterOf hturn (List.mem_reverse.mpr ?_) ?_
      · rw [hids]
        exact List.mem_map_of_mem he
      · rw [hids]
        exact (List.reverse_perm _).subset
    · obtain ⟨-, hturn', rfl, -⟩ := load_doc h'
      have hidents := hturn.idents_eq hturn'
      rw [hids, hids, hidents]
      exact ⟨rfl, rfl⟩
  | undecodable => cases h
  | _ =>
    cases h
    exact ⟨List.nodup_nil, by simp, fun h' => by
      cases h'
      exact ⟨rfl, rfl⟩⟩

/-- A counter that is written with the presets it was loaded with is loaded again. -/
theorem reloaded_eq {now : String} {file : File} {presets : List Preset} {nextId : Int}
    (h : load now file = .ok (presets, nextId, true)) :
    reloadedCounter nextId (presets.map Preset.ident) = nextId := by
  have hids : (presets.map Preset.ident).map Prod.fst = presets.map Preset.id := by
    rw [List.map_map]
    rfl
  cases file with
  | doc data =>
    obtain ⟨-, -, rfl, hmigrate⟩ := load_doc h
    have houtdated := hmigrate.mp rfl
    cases data with
    | obj data =>
      obtain ⟨v, raw, -, hraw, -⟩ := houtdated
      rw [reloadedCounter, hids, counterOf, hraw]
      exact loadNextId_again _ _
    | _ => exact houtdated.elim
  | _ => cases h

/-! ### The store and its ledger -/

/-- The ids and keys a caller sees, when an older file can be written back. -/
def view (keyText : Key → String) (now : String) (s : Service) : List (Int × String) :=
  match (items keyText ⟨now, true, none⟩ s).1 with
  | .ok presets => presets.map Preset.ident
  | .error _ => []

structure Service.Holds (s : Service) (l : Ledger String) : Prop where
  cached : ∀ presets, s.cache = some presets →
    presets.map Preset.ident = l.entries ∧ s.nextId = some l.ahead
  filed : ∀ now, ∃ presets migrate, load now s.file = .ok (presets, l.durable, migrate) ∧
    presets.map Preset.ident = l.entries

/-- The store after `_items`. -/
structure Service.Ready (s : Service) (l : Ledger String) (presets : List Preset) : Prop
    extends s.Holds l where
  cache : s.cache = some presets

theorem Service.Ready.entries {s : Service} {l : Ledger String} {presets : List Preset}
    (h : s.Ready l presets) : presets.map Preset.ident = l.entries := (h.cached presets h.cache).1

theorem Service.Ready.nextId {s : Service} {l : Ledger String} {presets : List Preset}
    (h : s.Ready l presets) : s.nextId = some l.ahead := (h.cached presets h.cache).2

/-- A store holds a ledger that has advanced, with entries as `P` says. -/
def Service.Advanced (l : Ledger String) (P : List (Int × String) → Prop) (s : Service) : Prop :=
  ∃ l', s.Holds l' ∧ l.Advance l' ∧ P l'.entries

section Calls
variable {keyText : Key → String} {env : Env} {s : Service} {l : Ledger String}
variable {P : List (Int × String) → Prop}

/-- `_items` answers, and at most the counter in use falls back; or an older file cannot be
written back. -/
theorem items_ready (keyText : Key → String) (env : Env) (hs : s.Holds l) :
    (∃ presets s' l', items keyText env s = (.ok presets, s') ∧ s'.Ready l' presets ∧
      l'.entries = l.entries ∧ l.Advance l') ∨
    env.writable = false ∧ ∃ e s', items keyText env s = (.error e, s') ∧ s'.Holds l := by
  unfold items
  cases hcache : s.cache with
  | some presets => exact .inl ⟨presets, s, l, rfl, ⟨hs, hcache⟩, rfl, .refl l⟩
  | none =>
    obtain ⟨presets, migrate, hload, hentries⟩ := hs.filed env.now
    have hready : ∀ file : File, (∀ now, ∃ presets migrate,
        load now file = .ok (presets, l.durable, migrate) ∧ presets.map Preset.ident = l.entries) →
        Service.Ready ⟨file, some presets, some l.durable⟩ (l.recount l.durable (Int.le_refl _))
          presets := fun file hfiled =>
      ⟨⟨fun presets' h => by
        cases h
        exact ⟨hentries, rfl⟩, hfiled⟩, rfl⟩
    rw [hload]
    simp only [andThen_ok]
    cases migrate with
    | false => exact .inl ⟨presets, _, _, rfl, hready _ hs.filed, rfl, l.advance_recount _ _⟩
    | true =>
      cases hwritable : env.writable with
      | false =>
        refine .inr ⟨rfl, .osError, {s with nextId := some l.durable}, ?_, ⟨?_, hs.filed⟩⟩
        · simp [writeAtomic, hwritable]
        · intro presets' h
          rw [hcache] at h
          cases h
      | true =>
        let file : File := .doc ((payload (some l.durable) presets).dump keyText)
        refine .inl ⟨presets, _, _, ?_, hready file fun now => ?_, rfl, l.advance_recount _ _⟩
        · simp [writeAtomic, hwritable, file]
        · obtain ⟨presets', hload', hidents⟩ :=
            load_payload keyText l.durable (hentries ▸ l.ids_nodup) now
          rw [reloaded_eq hload] at hload'
          exact ⟨presets', false, hload', hidents.trans hentries⟩

theorem view_eq (hs : s.Holds l) (now : String) : view keyText now s = l.entries := by
  rcases items_ready keyText ⟨now, true, none⟩ hs with
    ⟨presets, s', l', hitems, hready, hentries, -⟩ | ⟨hwritable, -⟩
  · rw [view, hitems]
    exact hready.entries.trans hentries
  · cases hwritable

theorem Service.Ready.unchanged {presets : List Preset} (h : s.Ready l presets) (hP : P l.entries) :
    s.Advanced l P := ⟨l, h.toHolds, .refl l, hP⟩

/-- What a call does after `_items`. -/
theorem items_andThen {α : Type} {f : List Preset → Service → Except PyError α × Service}
    (hs : s.Holds l) (hP : P l.entries)
    (hf : ∀ presets s' l', items keyText env s = (.ok presets, s') → s'.Ready l' presets →
      l'.entries = l.entries → (f presets s').2.Advanced l' P) :
    (andThen (items keyText env s) f).2.Advanced l P := by
  rcases items_ready keyText env hs with
    ⟨presets, s', l', hitems, hready, hentries, hadvance⟩ | ⟨-, e, s', hitems, hs'⟩
  · rw [hitems, andThen_ok]
    obtain ⟨l'', hholds, hadvance', hP⟩ := hf presets s' l' hitems hready hentries
    exact ⟨l'', hholds, hadvance.trans hadvance', hP⟩
  · rw [hitems]
    exact ⟨l, hs', .refl l, hP⟩

/-- A write that succeeds leaves the rewritten ledger in the file. -/
theorem writeItems_holds (keyText : Key → String) {presets : List Preset} {n : Int} (hwritable : env.writable = true)
    (hnext : s.nextId = some n) (h : l.Rewrite (presets.map Preset.ident) n) :
    (writeItems keyText env s presets).2.Holds (saved h) := by
  rw [writeItems, writeAtomic, if_pos hwritable, hnext]
  refine ⟨nofun, fun now => ?_⟩
  obtain ⟨presets', hload, hidents⟩ := load_payload keyText n h.ids now
  exact ⟨presets', false, hload, hidents⟩

theorem writeItems_unwritable {presets : List Preset} (hwritable : ¬ env.writable = true) :
    (writeItems keyText env s presets).2 = s := by
  rw [writeItems, writeAtomic, if_neg hwritable, andThen_error]

/-- A write of new presets under the counter in use, whether or not it succeeds. -/
theorem writeItems_advanced {old presets : List Preset} (hs : s.Ready l old)
    (h : l.Rewrite (presets.map Preset.ident) l.ahead) (hold : P l.entries)
    (hnew : P (presets.map Preset.ident)) :
    (writeItems keyText env s presets).2.Advanced l P := by
  by_cases hwritable : env.writable = true
  · exact ⟨saved h, writeItems_holds keyText hwritable hs.nextId h, advance_saved h, hnew⟩
  · rw [writeItems_unwritable hwritable]
    exact hs.unchanged hold

/-- Ids that were claimed and given to nothing. -/
theorem Service.Ready.claimed {presets : List Preset} (h : s.Ready l presets) {n : Int}
    (hle : l.ahead ≤ n) :
    Service.Holds {s with nextId := some n} (l.recount n (Int.le_trans l.counter hle)) :=
  ⟨fun presets' hcache => ⟨(h.cached presets' hcache).1, rfl⟩, h.filed⟩

theorem get_advanced (keyText : Key → String) (env : Env) (hs : s.Holds l) (key : String)
    (hP : P l.entries) : (get keyText env s key).2.Advanced l P :=
  items_andThen hs hP fun _ _ _ _ hready hentries => hready.unchanged (hentries ▸ hP)

/-- The key `create` asks for. -/
def desiredKey (args : CreateArgs) : String :=
  slugify (if args.key.getD "" = "" then strip args.label else args.key.getD "")

/-- A `create` that gets as far as its write. -/
def Appends (keyText : Key → String) (env : Env) (s : Service) (args : CreateArgs) : Prop :=
  strip args.label ≠ "" ∧ ∃ presets s' key params, items keyText env s = (.ok presets, s') ∧
    uniqueKey (desiredKey args) (presets.map (·.key)) = .ok key ∧
    canonicalParams args.params = .ok params

theorem keys_eq (presets : List Preset) :
    (presets.map Preset.ident).map Prod.snd = presets.map (·.key) := by
  rw [List.map_map]
  rfl

theorem appendPreset_advanced {presets : List Preset} {preset : Preset} {n : Int}
    (hwritable : env.writable = true) (hnext : s.nextId = some n)
    (h : l.Rewrite ((presets ++ [preset]).map Preset.ident) n) :
    (appendPreset keyText env s presets preset).2.Advanced l fun _ => True := by
  rw [appendPreset]
  have hwritten := writeItems_holds keyText
    (s := {s with cache := some (presets ++ [preset])}) hwritable hnext h
  exact andThen_answer ⟨saved h, hwritten, advance_saved h, trivial⟩

/-- **A `create` advances the ledger, unless it gets to a write that fails.** -/
theorem create_advanced {args : CreateArgs} (hs : s.Holds l)
    (hwritable : Appends keyText env s args → env.writable = true) :
    (create keyText env s args).2.Advanced l fun _ => True := by
  rw [create]
  by_cases hlabel : strip args.label = ""
  · rw [if_pos hlabel]
    exact ⟨l, hs, .refl l, trivial⟩
  · rw [if_neg hlabel]
    refine items_andThen hs trivial fun presets s' l' hitems hready hentries => ?_
    cases hkey : uniqueKey (desiredKey args) (presets.map (·.key)) with
    | error e =>
      show (andThen (uniqueKey (desiredKey args) _, s') _).2.Advanced l' _
      rw [hkey]
      exact hready.unchanged trivial
    | ok key =>
      show (andThen (uniqueKey (desiredKey args) _, s') _).2.Advanced l' _
      rw [hkey, andThen_ok]
      dsimp only
      rw [hready.nextId]
      cases hparams : canonicalParams args.params with
      | error e => exact ⟨_, hready.claimed (n := l'.ahead + 1) (by omega), l'.advance_recount _ _, trivial⟩
      | ok params =>
        have hfresh : key ∉ l'.entries.map Prod.snd := by
          rw [← hready.entries, keys_eq]
          exact uniqueKey_fresh hkey
        refine appendPreset_advanced
          (hwritable ⟨hlabel, presets, s', key, params, hitems, hkey, hparams⟩) rfl ?_
        rw [List.map_append, hready.entries]
        exact l'.rewrite_append hfresh

theorem updatedPreset_ident {args : UpdateArgs} {preset preset' : Preset}
    (h : updatedPreset env args preset = .ok preset') : preset'.ident = preset.ident := by
  obtain ⟨label, -, h⟩ := bind_ok.mp h
  dsimp only at h
  split at h
  · cases h
    rfl
  · obtain ⟨params, -, h⟩ := bind_ok.mp h
    cases h
    rfl

/-- **An `update` changes no id and no key.** -/
theorem update_advanced (keyText : Key → String) (env : Env) (key : String) (args : UpdateArgs)
    (hs : s.Holds l) : (update keyText env s key args).2.Advanced l (· = l.entries) := by
  refine items_andThen hs rfl fun presets s' l' _ hready hentries => ?_
  cases hr : replaceFirst (·.key = key) (updatedPreset env args) presets with
  | error e => exact hready.unchanged hentries
  | ok found =>
    cases found with
    | none => exact hready.unchanged hentries
    | some pair =>
      have hidents : pair.2.map Preset.ident = l'.entries := by
        rw [replaceFirst_map (fun _ _ h => updatedPreset_ident h) hr, hready.entries]
      refine andThen_answer (writeItems_advanced hready ?_ hentries (hidents.trans hentries))
      rw [hidents]
      exact l'.rewrite_sublist (List.Sublist.refl _)

theorem delete_advanced {key : String} (hs : s.Holds l) :
    (delete keyText env s key).2.Advanced l fun _ => True := by
  refine items_andThen hs trivial fun presets s' l' _ hready _ => ?_
  dsimp only
  split
  · exact hready.unchanged trivial
  · refine andThen_answer (writeItems_advanced hready (l'.rewrite_sublist ?_) trivial trivial)
    rw [← hready.entries]
    exact List.filter_sublist.map _

/-- A `duplicate` that gets as far as the write of its `create`. -/
def DuplicateAppends (keyText : Key → String) (env : Env) (s : Service) (key : String)
    (newLabel : Option String) : Prop :=
  ∃ src s', get keyText env s key = (.ok (some src), s') ∧
    Appends keyText env s' (duplicateArgs src newLabel)

theorem duplicate_advanced {key : String} {newLabel : Option String} (hs : s.Holds l)
    (hwritable : DuplicateAppends keyText env s key newLabel → env.writable = true) :
    (duplicate keyText env s key newLabel).2.Advanced l fun _ => True := by
  obtain ⟨l', hs', hadvance, -⟩ :=
    get_advanced (P := fun _ => True) keyText env hs key trivial
  rw [duplicate]
  refine andThen_state ⟨l', hs', hadvance, trivial⟩ fun found hfound => ?_
  cases found with
  | none => exact ⟨l', hs', hadvance, trivial⟩
  | some src =>
    obtain ⟨l'', hs'', hadvance', -⟩ := create_advanced hs' fun happends =>
      hwritable ⟨src, _, Prod.ext hfound rfl, happends⟩
    exact andThen_answer ⟨l'', hs'', hadvance.trans hadvance', trivial⟩

theorem importPreset_ident {now : String} {id : Int} {key : String} {entry : Json} {preset : Preset}
    (h : importPreset now id key entry = .ok preset) : preset.ident = (id, key) := by
  obtain ⟨label, -, h⟩ := bind_ok.mp h
  obtain ⟨created, -, h⟩ := bind_ok.mp h
  obtain ⟨updated, -, h⟩ := bind_ok.mp h
  obtain ⟨raw, -, h⟩ := bind_ok.mp h
  obtain ⟨params, -, h⟩ := bind_ok.mp h
  obtain ⟨flags, -, h⟩ := bind_ok.mp h
  cases h
  rfl

/-- A bulk replacement advances the ledger; a refused one only the counter in use. -/
theorem replaceAll_advanced {entries : List Json} (hs : s.Holds l) :
    (replaceAll keyText env s entries).2.Advanced l fun _ => True := by
  refine items_andThen hs trivial fun presets s' l' _ hready _ => ?_
  obtain ⟨n, hn, hle⟩ := importEntries_counter slugify (importPreset env.now) [] l'.ahead entries
  cases himport : importEntries slugify (importPreset env.now) [] (some l'.ahead) entries with
  | mk answer nextId =>
    rw [himport] at hn
    obtain rfl : nextId = some n := hn
    have hclaimed : Service.Advanced l' (fun _ => True) {s' with nextId := some n} :=
      ⟨_, hready.claimed hle, l'.advance_recount _ _, trivial⟩
    rw [hready.nextId, himport]
    cases answer with
    | error e => exact hclaimed
    | ok imported =>
      show (writeItems keyText env {s' with nextId := some n} imported).2.Advanced l' _
      by_cases hwritable : env.writable = true
      · obtain ⟨n', hn', hclaims, hkeys, -⟩ :=
          importEntries_claims (fun h => importPreset_ident h) himport
        obtain rfl := Option.some.inj hn'
        have hrewrite := l'.rewrite_claims hkeys hclaims
        exact ⟨saved hrewrite, writeItems_holds keyText hwritable rfl hrewrite, advance_saved hrewrite, trivial⟩
      · rw [writeItems_unwritable hwritable]
        exact hclaimed

theorem restart_advanced (hs : s.Holds l) : (Service.fresh s.file).Advanced l fun _ => True :=
  ⟨l, ⟨nofun, hs.filed⟩, .refl l, trivial⟩

end Calls

/-! ### Lifetimes -/

/-- The public calls, and a restart: a new process makes a new service over the file. -/
inductive Op where
  | get (key : String)
  | create (args : CreateArgs)
  | update (key : String) (args : UpdateArgs)
  | delete (key : String)
  | duplicate (key : String) (newLabel : Option String)
  | replaceAll (entries : List Json)
  | restart

structure Event where
  env : Env
  op : Op

/-- The store after an event. -/
def Service.step (keyText : Key → String) (s : Service) (e : Event) : Service :=
  match e.op with
  | .get key => (get keyText e.env s key).2
  | .create args => (create keyText e.env s args).2
  | .update key args => (update keyText e.env s key args).2
  | .delete key => (delete keyText e.env s key).2
  | .duplicate key newLabel => (duplicate keyText e.env s key newLabel).2
  | .replaceAll entries => (replaceAll keyText e.env s entries).2
  | .restart => .fresh s.file

/-- A preset that is created finds the file writable. -/
def Event.Saves (keyText : Key → String) (s : Service) (e : Event) : Prop :=
  match e.op with
  | .create args => Appends keyText e.env s args → e.env.writable = true
  | .duplicate key newLabel => DuplicateAppends keyText e.env s key newLabel → e.env.writable = true
  | _ => True

/-- **One event advances the ledger.** -/
theorem step_advanced {keyText : Key → String} {s : Service} {l : Ledger String} (hs : s.Holds l)
    {e : Event} (hsaves : e.Saves keyText s) : (s.step keyText e).Advanced l fun _ => True := by
  obtain ⟨env, op⟩ := e
  cases op with
  | get key => exact get_advanced keyText env hs key trivial
  | create args => exact create_advanced hs hsaves
  | update key args =>
    obtain ⟨l', hs', hadvance, -⟩ := update_advanced keyText env key args hs
    exact ⟨l', hs', hadvance, trivial⟩
  | delete key => exact delete_advanced hs
  | duplicate key newLabel => exact duplicate_advanced hs hsaves
  | replaceAll entries => exact replaceAll_advanced hs
  | restart => exact restart_advanced hs

/-- A file a store can start on: it is loaded, and no two of its presets have one key. -/
def Startable (file : File) : Prop :=
  ∀ now, ∃ presets nextId migrate, load now file = .ok (presets, nextId, migrate) ∧
    (presets.map (·.key)).Nodup

theorem startable_holds {file : File} (h : Startable file) : ∃ l, (Service.fresh file).Holds l := by
  obtain ⟨presets, nextId, migrate, hload, hkeys⟩ := h ""
  obtain ⟨hids, hbelow, hsame⟩ := load_idents hload
  refine ⟨⟨presets.map Preset.ident, nextId, nextId, hids, (keys_eq presets).symm ▸ hkeys, hbelow,
    Int.le_refl _⟩, nofun, fun now => ?_⟩
  obtain ⟨presets', nextId', migrate', hload', -⟩ := h now
  obtain ⟨rfl, hidents⟩ := hsame hload'
  exact ⟨presets', migrate', hload', hidents⟩

/-- **As long as every preset that is created finds the file writable, ids and keys are kept
for life, and an update touches neither.** -/
theorem lifetime {keyText : Key → String} {file : File} (hfile : Startable file) {events : List Event}
    (hsaves : Along (Service.step keyText) (fun s e => e.Saves keyText s) (.fresh file) events)
    (now : String) :
    Lifelong (view keyText now) (Service.step keyText) (.fresh file) events ∧
    ∀ before env key args, events = before ++ [⟨env, .update key args⟩] →
      view keyText now (events.foldl (Service.step keyText) (.fresh file)) =
        view keyText now (before.foldl (Service.step keyText) (.fresh file)) := by
  obtain ⟨l, hl⟩ := startable_holds hfile
  have hstep : ∀ (s : Service) (e : Event) (l : Ledger String), s.Holds l → e.Saves keyText s →
      ∃ l', (s.step keyText e).Holds l' ∧ l.Advance l' := fun s e l hs he =>
    let ⟨l', hs', hadvance, _⟩ := step_advanced hs he
    ⟨l', hs', hadvance⟩
  refine ⟨lifelong_of_ledger (R := Service.Holds) (fun s l hs => view_eq hs now) hstep hl hsaves, ?_⟩
  rintro before env key args rfl
  obtain ⟨m, hm, -⟩ := ledger_run hstep hl (along_append.mp hsaves).1
  obtain ⟨m', hm', -, hentries⟩ := update_advanced keyText env key args hm
  rw [List.foldl_append, view_eq hm now]
  exact (view_eq hm' now).trans hentries

end RaceLink.Presets
