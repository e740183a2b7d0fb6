import RaceLink.Presets.Lifetime

/-! Calls of the preset service that raise, and what they leave behind.

As in the scene store, only `create` works on the cached list itself. The list of a
file of an older schema is written back when it is first read; what a caller sees of
the file is what it holds once the list was read. -/
namespace RaceLink.Presets
open Python Library
open Scenes (File Env importEntries uniqueKey)

/-- `list` answers as before, and finds and leaves the same file; the file itself is as before,
or as `list` would have left it. -/
structure Intact (keyText : Key → String) (env : Env) (s t : Service) : Prop where
  listed : (items keyText env t).1 = (items keyText env s).1
  settled : (items keyText env t).2.file = (items keyText env s).2.file
  filed : t.file = s.file ∨ t.file = (items keyText env s).2.file

instance (keyText : Key → String) (env : Env) : IsPreorder Service (Intact keyText env) where
  refl _ := ⟨rfl, rfl, .inl rfl⟩
  trans s t u h h' := by
    refine ⟨h'.listed.trans h.listed, h'.settled.trans h.settled, ?_⟩
    rcases h'.filed with hfile | hfile
    · rw [hfile]
      exact h.filed
    · exact .inr (hfile.trans h.settled)

/-- The event ends in an exception. -/
def Event.Raises (keyText : Key → String) (s : Service) (e : Event) : Prop :=
  match e.op with
  | .get key => Library.Raises (get keyText e.env s key)
  | .create args => Library.Raises (create keyText e.env s args)
  | .update key args => Library.Raises (update keyText e.env s key args)
  | .delete key => Library.Raises (delete keyText e.env s key)
  | .duplicate key newLabel => Library.Raises (duplicate keyText e.env s key newLabel)
  | .replaceAll entries => Library.Raises (replaceAll keyText e.env s entries)
  | .restart => False

section Calls
variable {keyText : Key → String} {env : Env} {s : Service}

theorem items_cached (keyText : Key → String) (env : Env) {presets : List Preset} (hcache : s.cache = some presets) :
    items keyText env s = (.ok presets, s) := by
  unfold items
  rw [hcache]

/-- The list was read and cached, or the exception left nothing but the counter. -/
theorem items_cases (keyText : Key → String) (env : Env) (s : Service) :
    (∃ presets, (items keyText env s).1 = .ok presets ∧
      (items keyText env s).2.cache = some presets) ∨
    ∃ e nextId, items keyText env s = (.error e, {s with nextId}) := by
  obtain ⟨file, cache, counter⟩ := s
  cases cache with
  | some presets => exact .inl ⟨presets, rfl, rfl⟩
  | none =>
    unfold items
    dsimp only
    cases load env.now file with
    | error e => exact .inr ⟨e, counter, rfl⟩
    | ok loaded =>
      obtain ⟨presets, nextId, migrate⟩ := loaded
      cases migrate with
      | false => exact .inl ⟨presets, rfl, rfl⟩
      | true =>
        by_cases hwritable : env.writable = true
        · refine .inl ⟨presets, ?_, ?_⟩ <;> simp [writeAtomic, hwritable]
        · exact .inr ⟨.osError, some nextId, by simp [writeAtomic, hwritable]⟩

/-- The counter is not seen: a load sets it. -/
theorem claimed_intact (keyText : Key → String) (env : Env) (s : Service) (nextId : Option Int) :
    Intact keyText env s {s with nextId} := by
  obtain ⟨file, cache, counter⟩ := s
  cases cache with
  | some presets => exact ⟨rfl, rfl, .inl rfl⟩
  | none =>
    have hsame : items keyText env ⟨file, none, nextId⟩ = items keyText env ⟨file, none, counter⟩ ∨
        ∃ e, load env.now file = .error e := by
      unfold items
      dsimp only
      cases hload : load env.now file with
      | error e => exact .inr ⟨e, rfl⟩
      | ok loaded => exact .inl rfl
    rcases hsame with hsame | ⟨e, hload⟩
    · exact ⟨congrArg Prod.fst hsame, congrArg (·.2.file) hsame, .inl rfl⟩
    · refine ⟨?_, ?_, .inl rfl⟩ <;> simp [items, hload]

/-- Reading the list leaves the store as it was, whether or not it can be read. -/
theorem items_intact (keyText : Key → String) (env : Env) (s : Service) :
    Intact keyText env s (items keyText env s).2 := by
  rcases items_cases keyText env s with ⟨presets, hanswer, hcache⟩ | ⟨e, nextId, hitems⟩
  · have hagain := items_cached keyText env hcache
    exact ⟨by rw [hagain, hanswer], by rw [hagain], .inr rfl⟩
  · rw [hitems]
    exact claimed_intact keyText env s nextId

theorem writeItems_spares (presets : List Preset) :
    Spares (Intact keyText env) s (writeItems keyText env s presets) := by
  unfold writeItems writeAtomic
  split
  · exact .answers rfl
  · exact .same _

/-- What follows `_items` spares the store if it spares every store. -/
theorem items_spares {α : Type} {f : List Preset → Service → Except PyError α × Service}
    (hf : ∀ presets t, Spares (Intact keyText env) t (f presets t)) :
    Spares (Intact keyText env) s (andThen (items keyText env s) f) :=
  Spares.andThen (items_intact keyText env s) fun presets _ => hf presets _

theorem update_spares (keyText : Key → String) (env : Env) (s : Service) (key : String)
    (args : UpdateArgs) : Spares (Intact keyText env) s (update keyText env s key args) := by
  refine items_spares fun presets t => Spares.pure fun found _ => ?_
  cases found with
  | none => exact .same _
  | some pair => exact (writeItems_spares pair.2).wrap

theorem delete_spares (keyText : Key → String) (env : Env) (s : Service) (key : String) :
    Spares (Intact keyText env) s (delete keyText env s key) := by
  refine items_spares fun presets t => ?_
  dsimp only
  split
  · exact .same _
  · exact (writeItems_spares _).wrap

/-- A refused import has only claimed ids. -/
theorem replaceAll_spares (keyText : Key → String) (env : Env) (s : Service) (entries : List Json) :
    Spares (Intact keyText env) s (replaceAll keyText env s entries) := by
  refine items_spares fun presets t => ?_
  cases himport : importEntries slugify (importPreset env.now) [] t.nextId entries with
  | mk answer nextId =>
    exact Spares.andThen (claimed_intact keyText env t nextId) fun imported _ =>
      writeItems_spares imported

/-! ### A preset that joins the list before it is written -/

theorem get_state (keyText : Key → String) (env : Env) (s : Service) (key : String) :
    (get keyText env s key).2 = (items keyText env s).2 := by
  unfold get
  cases hitems : items keyText env s with
  | mk answer t => cases answer <;> rfl

theorem get_intact (keyText : Key → String) (env : Env) (s : Service) (key : String) :
    Intact keyText env s (get keyText env s key).2 := by
  rw [get_state]
  exact items_intact keyText env s

theorem appendPreset_ok (hwritable : env.writable = true) (presets : List Preset) (preset : Preset) :
    (appendPreset keyText env s presets preset).1 = .ok preset := by
  simp [appendPreset, writeItems, writeAtomic, hwritable]

/-- A `create` that finds the file writable, or does not get to its write, spares the store:
the id it claimed is not seen. -/
theorem create_spares {args : CreateArgs} (hsaves : Appends keyText env s args → env.writable = true) :
    Spares (Intact keyText env) s (create keyText env s args) := by
  unfold create
  dsimp only
  split
  · exact .same _
  next hlabel =>
    refine Spares.andThen (items_intact keyText env s) fun presets hpresets =>
      Spares.pure fun key hkey => ?_
    refine Spares.andThen (claimed_intact keyText env _ _) fun params hparams => ?_
    have hwritable := hsaves ⟨hlabel, presets, _, key, params, Prod.ext hpresets rfl, hkey, hparams⟩
    exact .answers (appendPreset_ok hwritable presets _)

/-- **A `create` whose write fails leaves its preset in the list.** -/
theorem create_shows {args : CreateArgs} (happends : Appends keyText env s args)
    (hwritable : ¬ env.writable = true) :
    (items keyText env (create keyText env s args).2).1 ≠ (items keyText env s).1 := by
  obtain ⟨hlabel, presets, t, key, params, hitems, hkey, hparams⟩ := happends
  have hanswer : ∃ preset, (items keyText env (create keyText env s args).2).1 =
      .ok (presets ++ [preset]) := by
    unfold create
    dsimp only
    rw [if_neg hlabel, hitems, andThen_ok]
    show ∃ preset, (items keyText env (andThen (uniqueKey (desiredKey args) _, t) _).2).1 = _
    rw [hkey, andThen_ok, hparams, andThen_ok]
    unfold appendPreset writeItems writeAtomic
    dsimp only
    rw [if_neg hwritable]
    exact ⟨_, congrArg Prod.fst (items_cached keyText env rfl)⟩
  obtain ⟨preset, hanswer⟩ := hanswer
  intro hlists
  rw [hanswer, hitems] at hlists
  have hlengths := congrArg List.length (Except.ok.inj hlists)
  rw [List.length_append, List.length_singleton] at hlengths
  omega

theorem duplicate_spares {key : String} {newLabel : Option String}
    (hsaves : DuplicateAppends keyText env s key newLabel → env.writable = true) :
    Spares (Intact keyText env) s (duplicate keyText env s key newLabel) := by
  refine Spares.andThen (get_intact keyText env s key) fun found hfound => ?_
  cases found with
  | none => exact .same _
  | some src =>
    exact (create_spares fun happends => hsaves ⟨src, _, Prod.ext hfound rfl, happends⟩).wrap

theorem duplicate_shows {key : String} {newLabel : Option String}
    (happends : DuplicateAppends keyText env s key newLabel) (hwritable : ¬ env.writable = true) :
    (items keyText env (duplicate keyText env s key newLabel).2).1 ≠ (items keyText env s).1 := by
  obtain ⟨src, t, hget, happends⟩ := happends
  have hduplicate : (duplicate keyText env s key newLabel).2 =
      (create keyText env t (duplicateArgs src newLabel)).2 := by
    unfold duplicate
    rw [hget, andThen_ok]
    dsimp only
    cases hcreate : create keyText env t (duplicateArgs src newLabel) with
    | mk answer t' => cases answer <;> rfl
  have hbefore := get_intact keyText env s key
  rw [hget] at hbefore
  rw [hduplicate, ← hbefore.listed]
  exact create_shows happends hwritable

end Calls

/-- **An event that raises leaves the list and the file as they were exactly when it is not
the creation of a preset that finds the file unwritable.** -/
theorem raises_intact_iff {keyText : Key → String} {s : Service} {e : Event}
    (hraises : e.Raises keyText s) :
    Intact keyText e.env s (s.step keyText e) ↔ e.Saves keyText s := by
  obtain ⟨env, op⟩ := e
  cases op with
  | restart => exact hraises.elim
  | get key => exact iff_of_true (get_intact keyText env s key) trivial
  | create args =>
    refine ⟨fun h happends => ?_, fun hsaves => create_spares hsaves hraises⟩
    exact by_contra fun hwritable => create_shows happends hwritable h.listed
  | update key args => exact iff_of_true (update_spares keyText env s key args hraises) trivial
  | delete key => exact iff_of_true (delete_spares keyText env s key hraises) trivial
  | duplicate key newLabel =>
    refine ⟨fun h happends => ?_, fun hsaves => duplicate_spares hsaves hraises⟩
    exact by_contra fun hwritable => duplicate_shows happends hwritable h.listed
  | replaceAll entries => exact iff_of_true (replaceAll_spares keyText env s entries hraises) trivial

end RaceLink.Presets
