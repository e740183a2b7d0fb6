import RaceLink.Scenes.Service

/-! Rewriting the group references of stored scenes (`renumber_group_references`,
`remap_group_ids`), when a group is deleted or the groups are put in a new order.

The source has the walk twice, once for each rule for a single id; here it is one
walk over the rule `f`. Each step returns what the source returns, the new value
and whether anything changed; `Action.rename` is the value alone. -/
namespace RaceLink.Scenes
open Python Library

/-- `_shift_group_value`. -/
def shiftGroupValue (deletedGid value : Int) : Int :=
  if value = deletedGid then 0 else if value > deletedGid then value - 1 else value

/-- `_map_group_value`: the dict lists each old id once. -/
def mapGroupValue (mapping : List (Int × Int)) (value : Int) : Int :=
  (mapping.lookup value).getD value

section Rewrite
variable (f : Int → Int)

/-- `_shift_target_groups_list`, `_map_target_groups_list`. -/
def rewriteTargetGroupsList : Target → Target × Bool
  | .groups value =>
    let deduped := keepFirst id [] (value.map f)
    if deduped = value then (.groups value, false) else (.groups deduped, true)
  | target => (target, false)

/-- The walk over the rows of an explicit table: a row whose new id was seen is dropped. -/
def rewriteValues (seen : List Int) : List OffsetEntry → List OffsetEntry × Bool
  | [] => ([], false)
  | entry :: rest =>
    let shifted := f entry.id
    if shifted ∈ seen then ((rewriteValues seen rest).1, true)
    else
      let (rewritten, changed) := rewriteValues (shifted :: seen) rest
      ({entry with id := shifted} :: rewritten, shifted != entry.id || changed)

def rewriteOffset : OffsetBlock → OffsetBlock × Bool
  | .explicit values =>
    let (rewritten, changed) := rewriteValues f [] values
    if changed then (.explicit rewritten, true) else (.explicit values, false)
  | block => (block, false)

/-- A walk over a list hands the list itself back when nothing in it changed. -/
def rewriteList {α : Type} (step : α → α × Bool) (xs : List α) : List α × Bool :=
  if (xs.map step).any (·.2) then ((xs.map step).map (·.1), true) else (xs, false)

def rewriteEffect (e : Effect) : Effect × Bool :=
  let (target, changed) := rewriteTargetGroupsList f e.target
  ({e with target}, changed)

/-- `_renumber_action`, `_remap_action`. -/
def rewriteAction : Action → Action × Bool
  | .effect e =>
    let (e, changed) := rewriteEffect f e
    (.effect e, changed)
  | .startblock target params =>
    let (target, changed) := rewriteTargetGroupsList f target
    (.startblock target params, changed)
  | .sync => (.sync, false)
  | .delay durationMs => (.delay durationMs, false)
  | .offsetGroup target offset actions =>
    let (target, targetChanged) := rewriteTargetGroupsList f target
    let (actions, childrenChanged) := rewriteList (rewriteEffect f) actions
    let (offset, offsetChanged) := rewriteOffset f offset
    (.offsetGroup target offset actions, targetChanged || childrenChanged || offsetChanged)

/-- `_renumber_actions_for_deleted_group`, `_remap_actions_for_mapping`. -/
def rewriteActions (actions : List Action) : List Action × Bool := rewriteList (rewriteAction f) actions

/-- The loop over the scenes: how many changed, and the new list. A changed scene
goes through the validator again. -/
def rewriteScenes (now : String) : List Scene → Except PyError (Nat × List Scene)
  | [] => .ok (0, [])
  | scene :: rest =>
    let (newActions, changed) := rewriteActions f scene.actions
    if changed then do
      let actions ← canonicalActions (actionsJson newActions)
      let (count, rest) ← rewriteScenes now rest
      .ok (count + 1, {scene with actions, updated := .str now} :: rest)
    else do
      let (count, rest) ← rewriteScenes now rest
      .ok (count, scene :: rest)

/-- What the two calls share. -/
def rewriteReferences (keyText : Key → String) (env : Env) (s : Service) :
    Except PyError Nat × Service :=
  andThen (items env.now s) fun scenes s =>
  andThen (rewriteScenes f env.now scenes, s) fun rewritten s =>
  if rewritten.1 = 0 then (.ok 0, s)
  else andThen (writeItems keyText env s rewritten.2) fun _ s => (.ok rewritten.1, s)

end Rewrite

/-- `renumber_group_references`. -/
def renumberGroupReferences (keyText : Key → String) (env : Env) (s : Service) (deletedGid : Int) :
    Except PyError Nat × Service :=
  rewriteReferences (shiftGroupValue deletedGid) keyText env s

/-- `remap_group_ids`. -/
def remapGroupIds (keyText : Key → String) (env : Env) (s : Service) (mapping : List (Int × Int)) :
    Except PyError Nat × Service :=
  if mapping = [] then (.ok 0, s) else rewriteReferences (mapGroupValue mapping) keyText env s

/-! ### The value of a rewritten action -/

section Rename
variable (f : Int → Int)

def OffsetEntry.rename (e : OffsetEntry) : OffsetEntry := {e with id := f e.id}

def Target.rename : Target → Target
  | .groups value => .groups (keepFirst id [] (value.map f))
  | target => target

def Effect.rename (e : Effect) : Effect := {e with target := e.target.rename f}

def OffsetBlock.rename : OffsetBlock → OffsetBlock
  | .explicit values => .explicit (keepFirst OffsetEntry.id [] (values.map (OffsetEntry.rename f)))
  | block => block

def Action.rename : Action → Action
  | .effect e => .effect (e.rename f)
  | .startblock target params => .startblock (target.rename f) params
  | .sync => .sync
  | .delay durationMs => .delay durationMs
  | .offsetGroup target offset actions =>
    .offsetGroup (target.rename f) (offset.rename f) (actions.map (Effect.rename f))

variable {f}

/-- A walk that says for each element what it becomes says it for the list. -/
theorem rewriteList_eq {α : Type} {step : α → α × Bool} {g : α → α}
    (hstep : ∀ x, step x = (g x, (step x).2)) (hsame : ∀ x, (step x).2 = false → g x = x)
    (xs : List α) :
    (rewriteList step xs).1 = xs.map g ∧ ((rewriteList step xs).2 = false → xs.map g = xs) := by
  have hfst : (xs.map step).map (·.1) = xs.map g := by
    rw [List.map_map]
    exact List.map_congr_left fun x _ => congrArg Prod.fst (hstep x)
  unfold rewriteList
  split
  case isTrue => exact ⟨hfst, fun h => absurd h (by simp)⟩
  case isFalse hany =>
    have hid : xs.map g = xs := map_eq_self.mpr fun x hx => hsame x <| by
      cases hc : (step x).2 with
      | false => rfl
      | true => exact absurd (List.any_eq_true.mpr ⟨step x, List.mem_map_of_mem hx, hc⟩) hany
    exact ⟨hid.symm, fun _ => hid⟩

theorem rewriteTargetGroupsList_eq (t : Target) :
    rewriteTargetGroupsList f t = (t.rename f, (rewriteTargetGroupsList f t).2) ∧
      ((rewriteTargetGroupsList f t).2 = false → t.rename f = t) := by
  cases t with
  | broadcast => exact ⟨rfl, fun _ => rfl⟩
  | device value => exact ⟨rfl, fun _ => rfl⟩
  | groups value =>
    by_cases h : keepFirst id [] (value.map f) = value
    · simp [rewriteTargetGroupsList, Target.rename, h]
    · simp [rewriteTargetGroupsList, Target.rename, h]

theorem rewriteValues_eq (seen : List Int) (values : List OffsetEntry) :
    (rewriteValues f seen values).1 = keepFirst OffsetEntry.id seen (values.map (OffsetEntry.rename f)) ∧
      ((rewriteValues f seen values).2 = false → (rewriteValues f seen values).1 = values) := by
  induction values generalizing seen with
  | nil => exact ⟨rfl, fun _ => rfl⟩
  | cons entry rest ih =>
    obtain ⟨hvalue, hsame⟩ := ih (f entry.id :: seen)
    by_cases h : f entry.id ∈ seen
    · simp [rewriteValues, keepFirst, OffsetEntry.rename, h, (ih seen).1]
    · simp only [rewriteValues, List.map_cons, keepFirst, OffsetEntry.rename, h, if_false, hvalue,
        Bool.or_eq_false_iff, bne_eq_false_iff_eq, true_and]
      rintro ⟨hid, hrest⟩
      have hentry : ({entry with id := f entry.id} : OffsetEntry) = entry := by rw [hid]
      rw [hentry, ← hvalue, hsame hrest]

theorem rewriteOffset_eq (b : OffsetBlock) :
    rewriteOffset f b = (b.rename f, (rewriteOffset f b).2) ∧
      ((rewriteOffset f b).2 = false → b.rename f = b) := by
  cases b with
  | explicit values =>
    obtain ⟨hvalue, hsame⟩ := rewriteValues_eq (f := f) [] values
    cases hc : (rewriteValues f [] values).2 with
    | false =>
      have hrename : OffsetBlock.rename f (.explicit values) = .explicit values := by
        rw [OffsetBlock.rename, ← hvalue, hsame hc]
      simp [rewriteOffset, hc, hrename]
    | true => simp [rewriteOffset, hc, OffsetBlock.rename, hvalue]
  | none => exact ⟨rfl, fun _ => rfl⟩
  | linear base step => exact ⟨rfl, fun _ => rfl⟩
  | vshape base step center => exact ⟨rfl, fun _ => rfl⟩
  | modulo base step cycle => exact ⟨rfl, fun _ => rfl⟩

theorem rewriteEffect_eq (e : Effect) :
    rewriteEffect f e = (e.rename f, (rewriteEffect f e).2) ∧
      ((rewriteEffect f e).2 = false → e.rename f = e) := by
  obtain ⟨hvalue, hsame⟩ := rewriteTargetGroupsList_eq (f := f) e.target
  constructor
  · rw [rewriteEffect, hvalue]
    rfl
  · intro h
    rw [Effect.rename, hsame h]

theorem rewriteAction_eq (a : Action) :
    rewriteAction f a = (a.rename f, (rewriteAction f a).2) ∧
      ((rewriteAction f a).2 = false → a.rename f = a) := by
  cases a with
  | effect e =>
    obtain ⟨hvalue, hsame⟩ := rewriteEffect_eq (f := f) e
    refine ⟨by rw [rewriteAction, hvalue]; rfl, fun h => ?_⟩
    rw [Action.rename, hsame h]
  | startblock target params =>
    obtain ⟨hvalue, hsame⟩ := rewriteTargetGroupsList_eq (f := f) target
    refine ⟨by rw [rewriteAction, hvalue]; rfl, fun h => ?_⟩
    rw [Action.rename, hsame h]
  | sync => exact ⟨rfl, fun _ => rfl⟩
  | delay durationMs => exact ⟨rfl, fun _ => rfl⟩
  | offsetGroup target offset actions =>
    obtain ⟨htarget, htsame⟩ := rewriteTargetGroupsList_eq (f := f) target
    obtain ⟨hactions, hasame⟩ := rewriteList_eq (fun e => (rewriteEffect_eq (f := f) e).1)
      (fun e => (rewriteEffect_eq e).2) actions
    obtain ⟨hoffset, hosame⟩ := rewriteOffset_eq (f := f) offset
    constructor
    · rw [rewriteAction, htarget, hoffset]
      simp only [hactions, Action.rename]
    · intro h
      rw [rewriteAction, Bool.or_eq_false_iff, Bool.or_eq_false_iff] at h
      rw [Action.rename, htsame h.1.1, hosame h.2, hasame h.1.2]

/-- The walk over a scene's actions renames each, and says "unchanged" only of a list
that the renaming leaves alone. -/
theorem rewriteActions_eq (actions : List Action) :
    (rewriteActions f actions).1 = actions.map (Action.rename f) ∧
      ((rewriteActions f actions).2 = false → actions.map (Action.rename f) = actions) :=
  rewriteList_eq (fun a => (rewriteAction_eq a).1) (fun a => (rewriteAction_eq a).2) actions

end Rename

end RaceLink.Scenes
