import RaceLink.Scenes.Lifetime

/-! Calls of the scene service that raise, and what they leave behind.

A call works on what `_items` returns and invalidates the cache only after the write.
All calls but one compute a new list; `create` appends to the cached list itself. -/
namespace RaceLink.Scenes
open Python Library

/-- `list` answers as before, and the file is as before. -/
structure Intact (now : String) (s t : Service) : Prop where
  listed : (items now t).1 = (items now s).1
  filed : t.file = s.file

instance (now : String) : IsPreorder Service (Intact now) where
  refl _ := ⟨rfl, rfl⟩
  trans _ _ _ h h' := ⟨h'.listed.trans h.listed, h'.filed.trans h.filed⟩

/-- The event ends in an exception. -/
def Event.Raises (keyText : Key → String) (s : Service) (e : Event) : Prop :=
  match e.op with
  | .call (.get key) => Library.Raises (get e.env.now s key)
  | .call (.create args) => Library.Raises (create keyText e.env s args)
  | .call (.update key args) => Library.Raises (update keyText e.env s key args)
  | .call (.delete key) => Library.Raises (delete keyText e.env s key)
  | .call (.duplicate key newLabel) => Library.Raises (duplicate keyText e.env s key newLabel)
  | .call (.renumber deletedGid) => Library.Raises (renumberGroupReferences keyText e.env s deletedGid)
  | .call (.remap mapping) => Library.Raises (remapGroupIds keyText e.env s mapping)
  | .replaceAll entries => Library.Raises (replaceAll keyText e.env s entries)
  | .restart => False

section Calls
variable {keyText : Key → String} {env : Env} {s : Service}

/-- Reading the list leaves the store as it was, whether or not it can be read. -/
theorem items_intact (now : String) (s : Service) : Intact now s (items now s).2 := by
  obtain ⟨file, cache, nextId⟩ := s
  cases cache with
  | some scenes => exact ⟨rfl, rfl⟩
  | none =>
    cases hload : load now file with
    | error e => constructor <;> simp only [items, hload]
    | ok loaded => constructor <;> simp only [items, hload]

/-- The list that was read is in the cache. -/
theorem items_cache {now : String} {scenes : List Scene} (h : (items now s).1 = .ok scenes) :
    (items now s).2.cache = some scenes := by
  obtain ⟨file, cache, nextId⟩ := s
  cases cache with
  | some cached => exact congrArg some (Except.ok.inj h)
  | none =>
    cases hload : load now file with
    | error e => simp [items, hload] at h
    | ok loaded =>
      simp only [items, hload] at h ⊢
      exact congrArg some (Except.ok.inj h)

/-- The counter is not seen while there is a cache. -/
theorem claimed_intact {now : String} {scenes : List Scene} (hcache : s.cache = some scenes)
    (nextId : Option Int) : Intact now s {s with nextId} := by
  refine ⟨?_, rfl⟩
  unfold items
  rw [hcache]

theorem writeItems_spares (scenes : List Scene) :
    Spares (Intact env.now) s (writeItems keyText env s scenes) := by
  unfold writeItems
  split
  · exact .answers rfl
  · exact .same _

/-- What follows `_items` spares the store if it spares one whose list is cached. -/
theorem items_spares {α : Type} {f : List Scene → Service → Except PyError α × Service}
    (hf : ∀ scenes t, t.cache = some scenes → Spares (Intact env.now) t (f scenes t)) :
    Spares (Intact env.now) s (andThen (items env.now s) f) :=
  Spares.andThen (items_intact env.now s) fun scenes hscenes => hf scenes _ (items_cache hscenes)

theorem update_spares (keyText : Key → String) (env : Env) (s : Service) (key : String)
    (args : UpdateArgs) : Spares (Intact env.now) s (update keyText env s key args) := by
  refine Spares.pure fun given _ => items_spares fun scenes t _ => Spares.pure fun found _ => ?_
  cases found with
  | none => exact .same _
  | some pair => exact (writeItems_spares pair.2).wrap

theorem delete_spares (keyText : Key → String) (env : Env) (s : Service) (key : String) :
    Spares (Intact env.now) s (delete keyText env s key) := by
  refine items_spares fun scenes t _ => ?_
  dsimp only
  split
  · exact .same _
  · exact (writeItems_spares _).wrap

theorem rewriteReferences_spares (f : Int → Int) (keyText : Key → String) (env : Env) (s : Service) :
    Spares (Intact env.now) s (rewriteReferences f keyText env s) := by
  refine items_spares fun scenes t _ => Spares.pure fun rewritten _ => ?_
  split
  · exact .same _
  · exact (writeItems_spares _).wrap

theorem remapGroupIds_spares (keyText : Key → String) (env : Env) (s : Service)
    (mapping : List (Int × Int)) : Spares (Intact env.now) s (remapGroupIds keyText env s mapping) := by
  unfold remapGroupIds
  split
  · exact .same _
  · exact rewriteReferences_spares _ keyText env s

/-- A refused import has only claimed ids. -/
theorem replaceAll_spares (keyText : Key → String) (env : Env) (s : Service) (entries : List Json) :
    Spares (Intact env.now) s (replaceAll keyText env s entries) := by
  refine items_spares fun scenes t hcache => ?_
  cases himport : importEntries slugify (importScene env.now) [] t.nextId entries with
  | mk answer nextId =>
    refine Spares.andThen (claimed_intact hcache nextId) fun imported _ => ?_
    show Spares _ _ (writeImported keyText env {t with nextId} imported)
    unfold writeImported
    split
    · exact .answers rfl
    · exact .same _

/-! ### A scene that joins the list before it is written -/

theorem get_intact (now : String) (s : Service) (key : String) : Intact now s (get now s key).2 := by
  have hstate : (get now s key).2 = (items now s).2 := by
    unfold get
    cases hitems : items now s with
    | mk answer t => cases answer <;> rfl
  rw [hstate]
  exact items_intact now s

theorem appendScene_ok (hwritable : env.writable = true) (scenes : List Scene) (draft : Scene)
    (key : String) : (appendScene keyText env s scenes draft key).1 =
      .ok (draft.named (s.nextId.getD 0) key) := by
  simp [appendScene, writeItems, hwritable]

/-- A `create` that finds the file writable, or does not get to its write, spares the store. -/
theorem create_spares {args : CreateArgs} (hsaves : Appends env s args → env.writable = true) :
    Spares (Intact env.now) s (create keyText env s args) := by
  refine Spares.pure fun draft hdraft => ?_
  refine Spares.andThen (items_intact env.now s) fun scenes hscenes => Spares.pure fun key hkey => ?_
  have hwritable := hsaves ⟨draft, scenes, _, key, hdraft, Prod.ext hscenes rfl, hkey⟩
  exact .answers (appendScene_ok hwritable scenes draft key)

/-- **A `create` whose write fails leaves its scene in the list.** -/
theorem create_shows {args : CreateArgs} (happends : Appends env s args)
    (hwritable : ¬ env.writable = true) :
    (items env.now (create keyText env s args).2).1 ≠ (items env.now s).1 := by
  obtain ⟨draft, scenes, t, key, hdraft, hitems, hkey⟩ := happends
  have hcreate : (create keyText env s args).2 = (appendScene keyText env t scenes draft key).2 := by
    unfold create
    rw [hdraft, andThen_ok, hitems, andThen_ok]
    show (andThen (uniqueKey (desiredKey args draft) _, t) _).2 = _
    rw [hkey, andThen_ok]
  have hlisted : (items env.now (appendScene keyText env t scenes draft key).2).1 =
      .ok (scenes ++ [draft.named (t.nextId.getD 0) key]) := by
    unfold appendScene writeItems
    dsimp only
    rw [if_neg hwritable]
    rfl
  intro hlists
  rw [hcreate, hlisted, hitems] at hlists
  have hlengths := congrArg List.length (Except.ok.inj hlists)
  rw [List.length_append, List.length_singleton] at hlengths
  omega

theorem duplicate_spares {key : String} {newLabel : Option String}
    (hsaves : DuplicateAppends env s key newLabel → env.writable = true) :
    Spares (Intact env.now) s (duplicate keyText env s key newLabel) := by
  refine Spares.andThen (get_intact env.now s key) fun found hfound => ?_
  cases found with
  | none => exact .same _
  | some src =>
    exact (create_spares fun happends => hsaves ⟨src, _, Prod.ext hfound rfl, happends⟩).wrap

theorem duplicate_shows {key : String} {newLabel : Option String}
    (happends : DuplicateAppends env s key newLabel) (hwritable : ¬ env.writable = true) :
    (items env.now (duplicate keyText env s key newLabel).2).1 ≠ (items env.now s).1 := by
  obtain ⟨src, t, hget, happends⟩ := happends
  have hduplicate : (duplicate keyText env s key newLabel).2 =
      (create keyText env t (duplicateArgs src newLabel)).2 := by
    unfold duplicate
    rw [hget, andThen_ok]
    dsimp only
    cases hcreate : create keyText env t (duplicateArgs src newLabel) with
    | mk answer t' => cases answer <;> rfl
  have hbefore := get_intact env.now s key
  rw [hget] at hbefore
  rw [hduplicate, ← hbefore.listed]
  exact create_shows happends hwritable

end Calls

/-- **An event that raises leaves the list and the file as they were exactly when it is not
the creation of a scene that finds the file unwritable.** -/
theorem raises_intact_iff {keyText : Key → String} {s : Service} {e : Event}
    (hraises : e.Raises keyText s) : Intact e.env.now s (s.step keyText e) ↔ e.Saves s := by
  obtain ⟨env, op⟩ := e
  cases op with
  | restart => exact hraises.elim
  | replaceAll entries => exact iff_of_true (replaceAll_spares keyText env s entries hraises) trivial
  | call call =>
    cases call with
    | get key => exact iff_of_true (get_intact env.now s key) trivial
    | create args =>
      refine ⟨fun h happends => ?_, fun hsaves => create_spares hsaves hraises⟩
      exact by_contra fun hwritable => create_shows happends hwritable h.listed
    | update key args => exact iff_of_true (update_spares keyText env s key args hraises) trivial
    | delete key => exact iff_of_true (delete_spares keyText env s key hraises) trivial
    | duplicate key newLabel =>
      refine ⟨fun h happends => ?_, fun hsaves => duplicate_spares hsaves hraises⟩
      exact by_contra fun hwritable => duplicate_shows happends hwritable h.listed
    | renumber deletedGid =>
      exact iff_of_true (rewriteReferences_spares _ keyText env s hraises) trivial
    | remap mapping => exact iff_of_true (remapGroupIds_spares keyText env s mapping hraises) trivial

end RaceLink.Scenes
