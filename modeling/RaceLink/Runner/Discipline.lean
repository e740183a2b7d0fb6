import RaceLink.Runner.Runner

/-! What a run of a scene always keeps to, whatever the senders answer or raise and
whatever the callback does.

`Enclosed` says what a part of the run leaves alone: the attributes and the events,
and that its steps are those of one action. Each handler keeps to it, so an
executed action does (`dispatch_executed`), and the loop is then one induction. -/
namespace RaceLink.Runner
open Python Library Domain Protocol Scenes Dispatch

variable {σ : Type} (svc : Services σ)

/-! ### One action -/

/-- A step of the action with this index. -/
def ScopeStep.Of (index : Nat) : ScopeStep → Prop
  | .op i _ => i = index
  | .enter _ => True
  | .leave => True
  | .install _ => False
  | .restore => False

/-- A part of an action: it gives the attributes back, tells the callback nothing, and only
adds steps of its action. -/
structure Enclosed (index : Nat) (s t : RunState σ) : Prop where
  attrs : t.attrs = s.attrs
  events : t.events = s.events
  trace : ∃ steps, t.trace = s.trace ++ steps ∧ ∀ step ∈ steps, step.Of index

theorem Enclosed.refl (index : Nat) (s : RunState σ) : Enclosed index s s :=
  ⟨rfl, rfl, [], by simp, by simp⟩

theorem Enclosed.trans {index : Nat} {s t u : RunState σ} (h : Enclosed index s t) (h' : Enclosed index t u) :
    Enclosed index s u := by
  obtain ⟨steps, htrace, hof⟩ := h.trace
  obtain ⟨steps', htrace', hof'⟩ := h'.trace
  refine ⟨h'.attrs.trans h.attrs, h'.events.trans h.events, steps ++ steps', ?_, fun step hstep => ?_⟩
  · rw [htrace', htrace, List.append_assoc]
  · exact (List.mem_append.mp hstep).elim (hof step) (hof' step)

/-- A change of the world alone. -/
theorem Enclosed.world (index : Nat) (s : RunState σ) (world : σ) : Enclosed index s {s with world} :=
  ⟨rfl, rfl, [], by simp, by simp⟩

theorem dispatchOp_enclosed (index : Nat) (op : WireOp) (s : RunState σ) :
    Enclosed index s (dispatchOp svc index op s).2 := by
  have hstep : ∀ step ∈ [ScopeStep.op index op], step.Of index := by
    intro step h
    obtain rfl := List.mem_singleton.mp h
    exact rfl
  unfold dispatchOp
  dsimp only
  split <;> exact ⟨rfl, rfl, _, rfl, hstep⟩

theorem executeOps_enclosed (index : Nat) (ops : List WireOp) (s : RunState σ) :
    Enclosed index s (executeOps svc index ops s).2 := by
  induction ops generalizing s with
  | nil => exact .refl index s
  | cons op rest ih =>
    refine andThen_state (I := Enclosed index s) (dispatchOp_enclosed svc index op s) fun ok _ => ?_
    exact (dispatchOp_enclosed svc index op s).trans (andThen_answer (ih _))

theorem executePlan_enclosed (index : Nat) (kind : String) (plan : ActionDispatchPlan) (s : RunState σ) :
    Enclosed index s (executePlan svc index kind plan s).2 := by
  unfold executePlan
  split
  · exact .refl index s
  · exact andThen_answer (executeOps_enclosed svc index plan.ops s)

/-- The attributes are put back, whether or not an op raised. -/
theorem executeContainer_enclosed (index : Nat) (target : Target) (plan : ActionDispatchPlan)
    (s : RunState σ) : Enclosed index s (executeContainer svc index target plan s).2 := by
  have h := executePlan_enclosed svc index "offset_group" plan
    (enterContainer (narrowedAttrs svc s.world target) s)
  obtain ⟨steps, htrace, hof⟩ := h.trace
  refine ⟨rfl, h.events, .enter (narrowedAttrs svc s.world target) :: (steps ++ [.leave]), ?_, ?_⟩
  · show _ ++ [ScopeStep.leave] = _
    rw [htrace, enterContainer]
    simp
  · intro step hstep
    rcases List.mem_cons.mp hstep with rfl | hstep
    · trivial
    · rcases List.mem_append.mp hstep with hstep | hstep
      · exact hof step hstep
      · obtain rfl := List.mem_singleton.mp hstep
        trivial

theorem runAction_enclosed (index : Nat) (action : Action) (s : RunState σ) :
    Enclosed index s (runAction svc index action s).2 := by
  cases action with
  | delay durationMs => exact andThen_answer (Enclosed.world index s _)
  | sync => exact executePlan_enclosed svc index "sync" planSync s
  | offsetGroup target offset actions =>
    dsimp only [runAction]
    split
    · exact .refl index s
    · exact executeContainer_enclosed svc index target _ s
  | effect e =>
    dsimp only [runAction]
    split
    · exact .refl index s
    · exact executePlan_enclosed svc index e.kind.name _ s
  | startblock target params =>
    dsimp only [runAction]
    split
    · exact .refl index s
    · exact executePlan_enclosed svc index "startblock" _ s

/-- A result of an executed action. -/
structure Executed (index : Nat) (action : Action) (r : ActionResult) : Prop where
  index : r.index = index
  kind : r.kind = kindOf action
  notSkipped : r.error ≠ some .skipped

theorem planResult_executed {index : Nat} {action : Action} {kind : String} (hkind : kind = kindOf action)
    (plan : ActionDispatchPlan) (oks : List Bool) : Executed index action (planResult index kind plan oks) := by
  unfold planResult
  dsimp only
  split
  · refine ⟨rfl, hkind, ?_⟩
    dsimp only
    split <;> simp
  · refine ⟨rfl, hkind, ?_⟩
    dsimp only
    split <;> simp

theorem executePlan_executed {index : Nat} {action : Action} {kind : String} {plan : ActionDispatchPlan}
    {s : RunState σ} {r : ActionResult} (hkind : kind = kindOf action)
    (h : (executePlan svc index kind plan s).1 = .ok r) : Executed index action r := by
  unfold executePlan at h
  split at h
  · cases h
    refine ⟨rfl, hkind, ?_⟩
    cases plan.error <;> simp
  · obtain ⟨oks, s', -, h⟩ := andThen_eq_ok.mp (Prod.ext h rfl)
    cases h
    exact planResult_executed hkind plan oks

theorem runAction_executed {index : Nat} {action : Action} {s : RunState σ} {r : ActionResult}
    (h : (runAction svc index action s).1 = .ok r) : Executed index action r := by
  cases action with
  | delay durationMs =>
    obtain ⟨_, _, -, h⟩ := andThen_eq_ok.mp (Prod.ext h rfl)
    cases h
    exact ⟨rfl, rfl, nofun⟩
  | sync => exact executePlan_executed svc rfl h
  | offsetGroup target offset actions =>
    dsimp only [runAction] at h
    split at h
    · cases h
    · exact executePlan_executed svc rfl h
  | effect e =>
    dsimp only [runAction] at h
    split at h
    · cases h
    · exact executePlan_executed svc rfl h
  | startblock target params =>
    dsimp only [runAction] at h
    split at h
    · cases h
    · exact executePlan_executed svc rfl h

/-- An exception in a handler leaves a result as well. -/
theorem dispatch_executed (index : Nat) (action : Action) (s : RunState σ) :
    Executed index action (dispatch svc index action s).1 ∧
      Enclosed index s (dispatch svc index action s).2 := by
  have henclosed := runAction_enclosed svc index action s
  unfold dispatch
  split
  · next r t h =>
    rw [h] at henclosed
    exact ⟨runAction_executed svc (congrArg Prod.fst h), henclosed⟩
  · next e t h =>
    rw [h] at henclosed
    exact ⟨⟨rfl, rfl, nofun⟩, henclosed⟩

/-! ### An action and its plan -/

/-- A plan whose ops were all carried out reports no error. -/
theorem executePlan_carried_out {index : Nat} {kind : String}
    {plan : ActionDispatchPlan} {s : RunState σ} {r : ActionResult} (hplan : plan.degraded = false)
    (hrun : (executePlan svc index kind plan s).1 = .ok r) (herror : r.error = none) :
    (executePlan svc index kind plan s).2 = (executeOps svc index plan.ops s).2 ∧
      ∃ oks, (executeOps svc index plan.ops s).1 = .ok oks ∧ ∀ ok ∈ oks, ok = true := by
  unfold executePlan at hrun ⊢
  rw [hplan, if_neg nofun] at hrun ⊢
  obtain ⟨oks, s', hops, heq⟩ := andThen_eq_ok.mp (Prod.ext hrun rfl)
  cases heq
  rw [hops]
  refine ⟨rfl, oks, rfl, ?_⟩
  have hall : oks.all id = true := by
    unfold planResult at herror
    dsimp only at herror
    split at herror
    · by_contra hne
      rw [if_neg hne] at herror
      cases herror
    · by_contra hne
      rw [if_neg hne] at herror
      cases herror
  simpa using hall

/-- The attributes in which an action's plan is executed. -/
def entered (action : Action) (s : RunState σ) : RunState σ :=
  match action with
  | .offsetGroup target _ _ => enterContainer (narrowedAttrs svc s.world target) s
  | _ => s

/-- An action with a plan is the execution of its plan. -/
theorem dispatch_planned (index : Nat) {action : Action} {s : RunState σ}
    {plan : ActionDispatchPlan} (hplan : planActionDispatch (svc.plannerInputs s.world) action = .ok plan)
    (hdelay : ∀ durationMs, action ≠ .delay durationMs) :
    (dispatch svc index action s).2.world =
        (executePlan svc index (kindOf action) plan (entered svc action s)).2.world ∧
      ((dispatch svc index action s).1.error = none →
        ∃ r, (executePlan svc index (kindOf action) plan (entered svc action s)).1 = .ok r ∧
          r.error = none) := by
  have hrun : (runAction svc index action s).1 =
        (executePlan svc index (kindOf action) plan (entered svc action s)).1 ∧
      (runAction svc index action s).2.world =
        (executePlan svc index (kindOf action) plan (entered svc action s)).2.world := by
    cases action with
    | delay durationMs => exact absurd rfl (hdelay durationMs)
    | sync =>
      cases hplan
      exact ⟨rfl, rfl⟩
    | _ =>
      dsimp only [planActionDispatch] at hplan
      simp only [runAction, planActionDispatch, hplan]
      exact ⟨rfl, rfl⟩
  rw [← hrun.1, ← hrun.2]
  unfold dispatch
  split
  · next r t h => exact ⟨by rw [h], fun hnone => ⟨r, by rw [h], hnone⟩⟩
  · next e t h =>
    refine ⟨by rw [h], fun hnone => ?_⟩
    cases hnone

/-- An action that cannot be planned leaves the world alone. -/
theorem dispatch_unplanned (index : Nat) {action : Action} {s : RunState σ}
    {e : PyError} (hplan : planActionDispatch (svc.plannerInputs s.world) action = .error e) :
    (dispatch svc index action s).2.world = s.world := by
  cases action with
  | delay durationMs => cases hplan
  | sync => cases hplan
  | _ =>
    dsimp only [planActionDispatch] at hplan
    simp only [dispatch, runAction, planActionDispatch, hplan]

/-! ### Events -/

theorem state_skipped {r : ActionResult} : r.state = .skipped ↔ r.error = some .skipped := by
  unfold ActionResult.state
  split
  · next h => simp [h]
  · next h =>
    refine ⟨fun hs => ?_, fun he => absurd he h⟩
    revert hs
    split
    · nofun
    · split <;> nofun

/-- The events of a result: a pair, or one for an action that was not executed. -/
def eventsOf (sceneKey : String) (r : ActionResult) : List Event :=
  if r.state = .skipped then [⟨sceneKey, r.index, r.kind, .skipped, r.error⟩]
  else [⟨sceneKey, r.index, r.kind, .started, none⟩, ⟨sceneKey, r.index, r.kind, r.state, r.error⟩]

/-- What the callback is given for some results; nothing without a callback. -/
def eventsFor (svc : Services σ) (sceneKey : String) (results : List ActionResult) : List Event :=
  if svc.progress.isSome then results.flatMap (eventsOf sceneKey) else []

theorem eventsFor_cons (svc : Services σ) (sceneKey : String) (r : ActionResult) (rs : List ActionResult) :
    eventsFor svc sceneKey (r :: rs) = eventsFor svc sceneKey [r] ++ eventsFor svc sceneKey rs := by
  unfold eventsFor
  split <;> simp

/-- The logs of a part of the loop: the events of its results, and steps of its actions. -/
structure Logged (svc : Services σ) (sceneKey : String) (results : List ActionResult)
    (indices : Nat → Prop) (s t : RunState σ) : Prop where
  attrs : t.attrs = s.attrs
  events : t.events = s.events ++ eventsFor svc sceneKey results
  trace : ∃ new, t.trace = s.trace ++ new ∧ ∀ step ∈ new, ∃ index, indices index ∧ step.Of index

variable {svc}

theorem Logged.cons {sceneKey : String} {r : ActionResult} {rs : List ActionResult}
    {indices : Nat → Prop} {s t u : RunState σ} (h : Logged svc sceneKey [r] indices s t)
    (h' : Logged svc sceneKey rs indices t u) : Logged svc sceneKey (r :: rs) indices s u := by
  obtain ⟨new, htrace, hof⟩ := h.trace
  obtain ⟨new', htrace', hof'⟩ := h'.trace
  refine ⟨h'.attrs.trans h.attrs, ?_, new ++ new', ?_, fun step hstep => ?_⟩
  · rw [h'.events, h.events, List.append_assoc, ← eventsFor_cons]
  · rw [htrace', htrace, List.append_assoc]
  · exact (List.mem_append.mp hstep).elim (hof step) (hof' step)

theorem Logged.mono {sceneKey : String} {rs : List ActionResult} {indices indices' : Nat → Prop}
    {s t : RunState σ} (h : Logged svc sceneKey rs indices s t) (hsub : ∀ i, indices i → indices' i) :
    Logged svc sceneKey rs indices' s t := by
  obtain ⟨new, htrace, hof⟩ := h.trace
  exact ⟨h.attrs, h.events, new, htrace, fun step hstep => (hof step hstep).imp fun i hi => ⟨hsub i hi.1, hi.2⟩⟩

variable (svc)

/-- The callback has no hold on the run. -/
theorem emitProgress_spec (event : Event) (s : RunState σ) :
    (emitProgress svc event s).attrs = s.attrs ∧ (emitProgress svc event s).trace = s.trace ∧
      (emitProgress svc event s).events = s.events ++ if svc.progress.isSome then [event] else [] := by
  unfold emitProgress
  split
  · next h => simp [h]
  · next h => simp [h]

theorem runOne_spec (sceneKey : String) (index : Nat) (action : Action) (s : RunState σ) :
    Executed index action (runOne svc sceneKey index action s).1 ∧
      (∃ s', (runOne svc sceneKey index action s).1 = (dispatch svc index action s').1) ∧
      Logged svc sceneKey [(runOne svc sceneKey index action s).1] (· = index) s
        (runOne svc sceneKey index action s).2 := by
  obtain ⟨hattrs, htrace, hevents⟩ := emitProgress_spec svc
    ⟨sceneKey, index, kindOf action, .started, none⟩ s
  obtain ⟨hexec, henclosed⟩ := dispatch_executed svc index action
    (emitProgress svc ⟨sceneKey, index, kindOf action, .started, none⟩ s)
  refine ⟨hexec, ⟨_, rfl⟩, ?_⟩
  unfold runOne
  dsimp only
  generalize dispatch svc index action _ = out at hexec henclosed ⊢
  obtain ⟨hattrs', htrace', hevents'⟩ := emitProgress_spec svc
    ⟨sceneKey, index, out.1.kind, out.1.state, out.1.error⟩ out.2
  obtain ⟨new, hnew, hof⟩ := henclosed.trace
  refine ⟨hattrs'.trans (henclosed.attrs.trans hattrs), ?_, new, ?_, fun step hstep => ⟨index, rfl, hof step hstep⟩⟩
  · rw [hevents', henclosed.events, hevents]
    have hstate : out.1.state ≠ .skipped := mt state_skipped.mp hexec.notSkipped
    unfold eventsFor
    split
    · rw [List.flatMap_singleton, eventsOf, if_neg hstate, hexec.index, hexec.kind, List.append_assoc]
      rfl
    · simp
  · rw [htrace', hnew, htrace]

/-- The results of actions that are not executed. -/
inductive Skipped : Nat → List Action → List ActionResult → Prop where
  | nil {index : Nat} : Skipped index [] []
  | cons {index : Nat} {action : Action} {rest : List Action} {results : List ActionResult}
      (h : Skipped (index + 1) rest results) : Skipped index (action :: rest)
        ({ index, kind := kindOf action, ok := false, error := some .skipped } :: results)

theorem skipRest_spec (sceneKey : String) (index : Nat) (actions : List Action) (s : RunState σ) :
    Skipped index actions (skipRest svc sceneKey index actions s).1 ∧
      Logged svc sceneKey (skipRest svc sceneKey index actions s).1 (fun _ => False) s
        (skipRest svc sceneKey index actions s).2 := by
  induction actions generalizing index s with
  | nil =>
    refine ⟨.nil, rfl, ?_, [], by simp [skipRest], by simp⟩
    simp [skipRest, eventsFor]
  | cons action rest ih =>
    obtain ⟨hattrs, htrace, hevents⟩ := emitProgress_spec svc
      ⟨sceneKey, index, kindOf action, .skipped, some .skipped⟩ s
    obtain ⟨hskip, hlog⟩ := ih (index + 1)
      (emitProgress svc ⟨sceneKey, index, kindOf action, .skipped, some .skipped⟩ s)
    refine ⟨.cons hskip, Logged.cons ⟨hattrs, ?_, [], by simp [htrace], by simp⟩ hlog⟩
    rw [hevents]
    rfl

/-! ### The loop -/

/-- A result that ends a run that stops on errors. -/
def Fails (r : ActionResult) : Prop := r.ok = false ∧ r.degraded = false

/-- What the loop makes of the actions from an index on. -/
inductive Ran (svc : Services σ) (stopOnError : Bool) :
    Nat → List Action → List ActionResult → Option Nat → Prop where
  | nil {index : Nat} : Ran svc stopOnError index [] [] none
  | next {index : Nat} {action : Action} {rest : List Action} {r : ActionResult}
      {results : List ActionResult} {aborted : Option Nat} (executed : Executed index action r)
      (dispatched : ∃ s, r = (dispatch svc index action s).1) (goes : stopOnError = true → ¬ Fails r)
      (h : Ran svc stopOnError (index + 1) rest results aborted) :
      Ran svc stopOnError index (action :: rest) (r :: results) aborted
  | abort {index : Nat} {action : Action} {rest : List Action} {r : ActionResult}
      {results : List ActionResult} (executed : Executed index action r)
      (dispatched : ∃ s, r = (dispatch svc index action s).1) (stops : stopOnError = true) (fails : Fails r)
      (skipped : Skipped (index + 1) rest results) :
      Ran svc stopOnError index (action :: rest) (r :: results) (some index)

/-- The actions that are executed: those up to the one that ended the run. -/
def Upto (index : Nat) (aborted : Option Nat) (i : Nat) : Prop :=
  index ≤ i ∧ ∀ j, aborted = some j → i ≤ j

variable {svc} in
theorem Ran.aborted_ge {stopOnError : Bool} {index : Nat} {actions : List Action}
    {results : List ActionResult} {aborted : Option Nat}
    (h : Ran svc stopOnError index actions results aborted) : ∀ j, aborted = some j → index ≤ j := by
  induction h with
  | nil => exact nofun
  | next _ _ _ _ ih => exact fun j hj => Nat.le_of_succ_le (ih j hj)
  | abort => exact fun j hj => (Option.some.inj hj).le

theorem runActions_ran (sceneKey : String) (stopOnError : Bool) (index : Nat) (actions : List Action)
    (s : RunState σ) :
    Ran svc stopOnError index actions (runActions svc sceneKey stopOnError index actions s).1.1
        (runActions svc sceneKey stopOnError index actions s).1.2 ∧
      Logged svc sceneKey (runActions svc sceneKey stopOnError index actions s).1.1
        (Upto index (runActions svc sceneKey stopOnError index actions s).1.2) s
        (runActions svc sceneKey stopOnError index actions s).2 := by
  induction actions generalizing index s with
  | nil =>
    refine ⟨.nil, rfl, ?_, [], by simp [runActions], by simp⟩
    simp [runActions, eventsFor]
  | cons action rest ih =>
    obtain ⟨hexec, hdispatched, hlog⟩ := runOne_spec svc sceneKey index action s
    unfold runActions
    dsimp only
    split
    · next hstop =>
      simp only [Bool.and_eq_true, Bool.not_eq_true'] at hstop
      obtain ⟨hskip, hskipLog⟩ := skipRest_spec svc sceneKey (index + 1) rest
        (runOne svc sceneKey index action s).2
      have hone : Logged svc sceneKey [(runOne svc sceneKey index action s).1] (Upto index (some index)) s
          (runOne svc sceneKey index action s).2 :=
        hlog.mono fun i hi => ⟨hi.ge, fun j hj => hi.trans_le (Option.some.inj hj).le⟩
      exact ⟨.abort hexec hdispatched hstop.1.1 ⟨hstop.1.2, hstop.2⟩ hskip,
        hone.cons (hskipLog.mono fun _ hi => hi.elim)⟩
    · next hgo =>
      obtain ⟨hran, hrest⟩ := ih (index + 1) (runOne svc sceneKey index action s).2
      have hone : Logged svc sceneKey [(runOne svc sceneKey index action s).1] (Upto index _) s
          (runOne svc sceneKey index action s).2 :=
        hlog.mono fun i hi =>
          ⟨hi.ge, fun j hj => hi.trans_le (Nat.le_of_succ_le (hran.aborted_ge j hj))⟩
      refine ⟨.next hexec hdispatched (fun hstop hfails => hgo ?_) hran,
        hone.cons (hrest.mono fun i hi => ⟨Nat.le_of_succ_le hi.1, hi.2⟩)⟩
      simp [hstop, hfails.1, hfails.2]

/-! ### A whole run -/

/-- The first result that ends a run that stops on errors. -/
def FirstFailure (results : List ActionResult) (i : Nat) : Prop :=
  (∃ r, results[i]? = some r ∧ Fails r) ∧ ∀ j r, j < i → results[j]? = some r → ¬ Fails r

/-- What a run keeps to, from a state `s` to a state `t`. -/
structure RunDiscipline (svc : Services σ) (scene : Scene) (result : SceneRunResult) (s t : RunState σ) :
    Prop where
  indices : result.actions.map (·.index) = List.range scene.actions.length
  ok : result.ok = true ↔ ∀ r ∈ result.actions, r.ok = true
  aborted : scene.stopOnError = true →
    ∀ i, result.abortedAtIndex = some i ↔ FirstFailure result.actions i
  continued : scene.stopOnError = false → result.abortedAtIndex = none
  dispatched : ∀ j action, scene.actions[j]? = some action →
    (∀ i, result.abortedAtIndex = some i → j ≤ i) → ∃ r, result.actions[j]? = some r ∧
      r.state ≠ .skipped ∧ ∃ s', r = (dispatch svc j action s').1
  skipped : ∀ i, result.abortedAtIndex = some i → ∀ j r, i < j → result.actions[j]? = some r →
    r.ok = false ∧ r.error = some .skipped
  attempted : ∃ new, t.trace = s.trace ++ new ∧
    ∀ i, result.abortedAtIndex = some i → ∀ j op, ScopeStep.op j op ∈ new → j ≤ i
  events : t.events = s.events ++ eventsFor svc result.sceneKey result.actions
  attrs : t.attrs = s.attrs

theorem Skipped.indices {index : Nat} {actions : List Action} {results : List ActionResult}
    (h : Skipped index actions results) : results.map (·.index) = List.range' index actions.length := by
  induction h with
  | nil => rfl
  | cons _ ih => simp [ih, List.range'_succ]

theorem Skipped.error {index : Nat} {actions : List Action} {results : List ActionResult}
    (h : Skipped index actions results) : ∀ r ∈ results, r.ok = false ∧ r.error = some .skipped := by
  induction h with
  | nil => simp
  | cons _ ih =>
    intro r hr
    rcases List.mem_cons.mp hr with rfl | hr
    · exact ⟨rfl, rfl⟩
    · exact ih r hr

section Ran
variable {svc} {stopOnError : Bool} {index : Nat} {actions : List Action} {results : List ActionResult}
  {ended : Option Nat}

theorem Ran.indices (h : Ran svc stopOnError index actions results ended) :
    results.map (·.index) = List.range' index actions.length := by
  induction h with
  | nil => rfl
  | next executed _ _ _ ih => simp [ih, executed.index, List.range'_succ]
  | abort executed _ _ _ skipped => simp [skipped.indices, executed.index, List.range'_succ]

theorem Ran.continued (h : Ran svc stopOnError index actions results ended)
    (hstop : stopOnError = false) : ended = none := by
  induction h with
  | nil => rfl
  | next _ _ _ _ ih => exact ih
  | abort _ _ stops => exact absurd hstop (by simp [stops])

/-- The run ends at the first failure, if it stops on errors. -/
theorem Ran.aborted (h : Ran svc stopOnError index actions results ended) (hstop : stopOnError = true) :
    ∀ i, ended = some (index + i) ↔ FirstFailure results i := by
  induction h with
  | nil => exact fun i => ⟨nofun, fun h => by obtain ⟨⟨r, hr, -⟩, -⟩ := h; cases hr⟩
  | @next index action rest r results aborted executed _ goes hran ih =>
    intro i
    cases i with
    | zero =>
      refine ⟨fun h => ?_, fun h => ?_⟩
      · exact absurd (hran.aborted_ge _ h) (by omega)
      · obtain ⟨⟨r', hr', hfails⟩, -⟩ := h
        cases hr'
        exact absurd hfails (goes hstop)
    | succ i =>
      rw [← Nat.add_assoc, Nat.add_right_comm, ih i]
      constructor
      · rintro ⟨hfail, hfirst⟩
        refine ⟨hfail, fun j r' hj hr' => ?_⟩
        cases j with
        | zero =>
          cases hr'
          exact goes hstop
        | succ j => exact hfirst j r' (by omega) hr'
      · rintro ⟨hfail, hfirst⟩
        exact ⟨hfail, fun j r' hj hr' => hfirst (j + 1) r' (by omega) hr'⟩
  | @abort index action rest r results executed _ _ fails _ =>
    intro i
    cases i with
    | zero => exact ⟨fun _ => ⟨⟨r, rfl, fails⟩, fun j _ hj => absurd hj (Nat.not_lt_zero j)⟩, fun _ => rfl⟩
    | succ i =>
      refine ⟨fun h => ?_, fun h => ?_⟩
      · have := Option.some.inj h
        omega
      · exact absurd fails (h.2 0 r (Nat.succ_pos i) rfl)

/-- The actions up to the one that ended the run were dispatched. -/
theorem Ran.dispatched (h : Ran svc stopOnError index actions results ended) :
    ∀ j action, actions[j]? = some action → (∀ i, ended = some i → index + j ≤ i) →
      ∃ r, results[j]? = some r ∧ r.state ≠ .skipped ∧
        ∃ s', r = (dispatch svc (index + j) action s').1 := by
  induction h with
  | nil => exact nofun
  | @next index action rest r results aborted executed dispatched _ _ ih =>
    intro j a ha hj
    cases j with
    | zero =>
      cases ha
      exact ⟨r, rfl, mt state_skipped.mp executed.notSkipped, dispatched⟩
    | succ j =>
      have hnext := ih j a ha fun i hi => by
        have := hj i hi
        omega
      rwa [Nat.add_assoc, Nat.add_comm 1] at hnext
  | @abort index action rest r results executed dispatched _ _ _ =>
    intro j a ha hj
    cases j with
    | zero =>
      cases ha
      exact ⟨r, rfl, mt state_skipped.mp executed.notSkipped, dispatched⟩
    | succ j =>
      have := hj index rfl
      omega

/-- The others were not. -/
theorem Ran.skipped (h : Ran svc stopOnError index actions results ended) :
    ∀ i, ended = some i → ∀ j r, i < index + j → results[j]? = some r →
      r.ok = false ∧ r.error = some .skipped := by
  induction h with
  | nil => exact nofun
  | @next index action rest r results aborted _ _ _ hran ih =>
    intro i hi j r' hj hr'
    cases j with
    | zero => exact absurd (hran.aborted_ge i hi) (by omega)
    | succ j => exact ih i hi j r' (by omega) hr'
  | @abort index action rest r results _ _ _ _ hskip =>
    intro i hi j r' hj hr'
    cases hi
    cases j with
    | zero => exact absurd hj (Nat.lt_irrefl _)
    | succ j => exact hskip.error r' (List.mem_of_getElem? hr')

end Ran

/-- **Every run of a scene keeps to the discipline, whatever its senders and its callback do.** -/
theorem runScene_discipline (svc : Services σ) (sceneKey : String) (scene : Scene) (s : RunState σ) :
    RunDiscipline svc scene (runScene svc sceneKey scene s).1 s (runScene svc sceneKey scene s).2 := by
  obtain ⟨hran, hlog⟩ := runActions_ran svc sceneKey scene.stopOnError 0 scene.actions
    (installScope (sceneAttrs scene.networkScope (svc.sceneNetworkIds s.world scene)) s)
  have hzero : ∀ j : Nat, 0 + j = j := Nat.zero_add
  obtain ⟨new, htrace, hof⟩ := hlog.trace
  refine
    { indices := ?_
      ok := by simp [runScene]
      aborted := fun hstop i => by
        have hfirst := hran.aborted hstop i
        rwa [hzero] at hfirst
      continued := hran.continued
      dispatched := fun j action ha hj => by
        have hdone := hran.dispatched j action ha fun i hi => (hzero j).trans_le (hj i hi)
        rwa [hzero] at hdone
      skipped := fun i hi j r hj hr => hran.skipped i hi j r (by rwa [hzero]) hr
      attempted := ?_
      events := hlog.events
      attrs := rfl }
  · rw [List.range_eq_range']
    exact hran.indices
  · refine ⟨.install (sceneAttrs scene.networkScope (svc.sceneNetworkIds s.world scene)) ::
      (new ++ [.restore]), ?_, fun i hi j op hop => ?_⟩
    · show _ ++ [ScopeStep.restore] = _
      rw [htrace, installScope]
      simp
    · have hmem : ScopeStep.op j op ∈ new := by simpa using hop
      obtain ⟨index, hupto, hindex⟩ := hof _ hmem
      have hle := hupto.2 i hi
      rwa [← show j = index from hindex] at hle

end RaceLink.Runner
