import RaceLink.Library.Runs
import RaceLink.Runner.Cost

/-! Runs of scenes at the same time on one runner (`services/scene_runner_service.py`,
and the run route of `web/api.py`, which does not wait for a run to end).

A run is a program of the steps the runner logs: it installs the attributes of its
scene, dispatches ops, enters and leaves containers, and restores what it found. The
attributes are shared, what was found is the run's own. `nested_separate` says that
runs do not notice each other as long as a run only steps while no later one is under
way; `runScene_follows` that the runner's own runs are such programs. -/
namespace RaceLink.Runner
open Python Library Domain Protocol Scenes Dispatch Routing

/-! ### Programs -/

/-- The programs with so many scopes installed or entered. -/
def Follows : Nat → List ScopeStep → Prop
  | 0, [] => True
  | 0, .install _ :: rest => Follows 1 rest
  | depth + 1, .op _ _ :: rest => Follows (depth + 1) rest
  | depth + 1, .enter _ :: rest => Follows (depth + 2) rest
  | depth + 2, .leave :: rest => Follows (depth + 1) rest
  | 1, .restore :: rest => Follows 0 rest
  | _, _ => False

/-- What a part of a run adds: ops, and containers entered and left. -/
inductive Balanced : List ScopeStep → Prop where
  | nil : Balanced []
  | op (index : Nat) (op : WireOp) {rest : List ScopeStep} (h : Balanced rest) :
      Balanced (.op index op :: rest)
  | container (narrowed : Option ScopeAttrs) {inside rest : List ScopeStep} (hin : Balanced inside)
      (h : Balanced rest) : Balanced (.enter narrowed :: inside ++ .leave :: rest)

theorem Balanced.append {a b : List ScopeStep} (ha : Balanced a) (hb : Balanced b) : Balanced (a ++ b) := by
  induction ha with
  | nil => exact hb
  | op index op _ ih => exact .op index op ih
  | container narrowed hin _ _ ih =>
    rw [List.append_assoc]
    exact .container narrowed hin ih

/-- A balanced part leaves the depth as it was. -/
theorem Balanced.follows {a rest : List ScopeStep} (ha : Balanced a) (depth : Nat)
    (h : Follows (depth + 1) rest) : Follows (depth + 1) (a ++ rest) := by
  induction ha generalizing depth rest with
  | nil => exact h
  | op index op _ ih => exact ih depth h
  | container narrowed _ _ ihin ih =>
    rw [List.append_assoc]
    exact ihin (depth + 1) (show Follows (depth + 2) (.leave :: _) from ih depth h)

section Runs
variable {σ : Type} (svc : Services σ)

/-- A part of a run adds a balanced part to the log. -/
def Adds (s t : RunState σ) : Prop := ∃ steps, t.trace = s.trace ++ steps ∧ Balanced steps

theorem Adds.refl (s : RunState σ) : Adds s s := ⟨[], by simp, .nil⟩

theorem Adds.trans {s t u : RunState σ} (h : Adds s t) (h' : Adds t u) : Adds s u := by
  obtain ⟨steps, htrace, hsteps⟩ := h
  obtain ⟨steps', htrace', hsteps'⟩ := h'
  exact ⟨steps ++ steps', by rw [htrace', htrace, List.append_assoc], hsteps.append hsteps'⟩

theorem Adds.of_trace {s t : RunState σ} (h : t.trace = s.trace) : Adds s t := ⟨[], by simp [h], .nil⟩

theorem dispatchOp_adds (index : Nat) (op : WireOp) (s : RunState σ) :
    Adds s (dispatchOp svc index op s).2 := by
  unfold dispatchOp
  dsimp only
  split <;> exact ⟨_, rfl, .op index op .nil⟩

theorem executeOps_adds (index : Nat) (ops : List WireOp) (s : RunState σ) :
    Adds s (executeOps svc index ops s).2 := by
  induction ops generalizing s with
  | nil => exact .refl s
  | cons op rest ih =>
    refine andThen_state (I := Adds s) (dispatchOp_adds svc index op s) fun ok _ => ?_
    exact (dispatchOp_adds svc index op s).trans (andThen_answer (ih _))

theorem executePlan_adds (index : Nat) (kind : String) (plan : ActionDispatchPlan) (s : RunState σ) :
    Adds s (executePlan svc index kind plan s).2 := by
  unfold executePlan
  split
  · exact .refl s
  · exact andThen_answer (executeOps_adds svc index plan.ops s)

theorem executeContainer_adds (index : Nat) (target : Target) (plan : ActionDispatchPlan)
    (s : RunState σ) : Adds s (executeContainer svc index target plan s).2 := by
  obtain ⟨steps, htrace, hsteps⟩ := executePlan_adds svc index "offset_group" plan
    (enterContainer (narrowedAttrs svc s.world target) s)
  refine ⟨.enter (narrowedAttrs svc s.world target) :: steps ++ [.leave], ?_, .container _ hsteps .nil⟩
  show _ ++ [ScopeStep.leave] = _
  rw [htrace, enterContainer]
  simp

theorem dispatch_adds (index : Nat) (action : Action) (s : RunState σ) :
    Adds s (dispatch svc index action s).2 := by
  have hrun : Adds s (runAction svc index action s).2 := by
    cases action with
    | delay durationMs => exact andThen_answer (Adds.of_trace rfl)
    | sync => exact executePlan_adds svc index "sync" planSync s
    | offsetGroup target offset actions =>
      dsimp only [runAction]
      split
      · exact .refl s
      · exact executeContainer_adds svc index target _ s
    | effect e =>
      dsimp only [runAction]
      split
      · exact .refl s
      · exact executePlan_adds svc index e.kind.name _ s
    | startblock target params =>
      dsimp only [runAction]
      split
      · exact .refl s
      · exact executePlan_adds svc index "startblock" _ s
  unfold dispatch
  split
  · next h =>
    rw [h] at hrun
    exact hrun
  · next h =>
    rw [h] at hrun
    exact hrun

theorem emitProgress_adds (event : Event) (s : RunState σ) : Adds s (emitProgress svc event s) :=
  .of_trace (emitProgress_spec svc event s).2.1

theorem skipRest_adds (sceneKey : String) (index : Nat) (actions : List Action) (s : RunState σ) :
    Adds s (skipRest svc sceneKey index actions s).2 := by
  induction actions generalizing index s with
  | nil => exact .refl s
  | cons action rest ih => exact (emitProgress_adds svc _ s).trans (ih _ _)

theorem runActions_adds (sceneKey : String) (stopOnError : Bool) (index : Nat) (actions : List Action)
    (s : RunState σ) : Adds s (runActions svc sceneKey stopOnError index actions s).2 := by
  induction actions generalizing index s with
  | nil => exact .refl s
  | cons action rest ih =>
    have hone : Adds s (runOne svc sceneKey index action s).2 :=
      (emitProgress_adds svc _ s).trans
        ((dispatch_adds svc index action _).trans (emitProgress_adds svc _ _))
    unfold runActions
    dsimp only
    split
    · exact hone.trans (skipRest_adds svc sceneKey (index + 1) rest _)
    · exact hone.trans (ih (index + 1) _)

/-- **What a run of the runner logs is a program, which installs the attributes of its scene.** -/
theorem runScene_follows (sceneKey : String) (scene : Scene) (s : RunState σ) :
    ∃ program, (runScene svc sceneKey scene s).2.trace = s.trace ++ program ∧ Follows 0 program ∧
      program.head? =
        some (.install (sceneAttrs scene.networkScope (svc.sceneNetworkIds s.world scene))) := by
  obtain ⟨steps, htrace, hsteps⟩ := runActions_adds svc sceneKey scene.stopOnError 0 scene.actions
    (installScope (sceneAttrs scene.networkScope (svc.sceneNetworkIds s.world scene)) s)
  refine ⟨.install (sceneAttrs scene.networkScope (svc.sceneNetworkIds s.world scene)) ::
    (steps ++ [.restore]), ?_, hsteps.follows 0 (by simp [Follows]), rfl⟩
  show _ ++ [ScopeStep.restore] = _
  rw [htrace, installScope]
  simp

end Runs

/-! ### Runs at the same time -/

/-- A run: what it has left to do, what it found and will put back, and the attributes
its own scene and containers ask for, the innermost first. -/
structure Thread where
  todo : List ScopeStep
  saved : List ScopeAttrs
  own : List ScopeAttrs

/-- One step of a run on the shared attributes. -/
def Thread.step (attrs : ScopeAttrs) (t : Thread) : ScopeAttrs × Thread :=
  match t.todo with
  | [] => (attrs, t)
  | .install a :: rest => (a, ⟨rest, attrs :: t.saved, a :: t.own⟩)
  | .enter narrowed :: rest =>
    (narrowed.getD attrs, ⟨rest, attrs :: t.saved, (narrowed <|> t.own.head?).toList ++ t.own⟩)
  | .op _ _ :: rest => (attrs, {t with todo := rest})
  | .leave :: rest => (t.saved.headD attrs, ⟨rest, t.saved.tail, t.own.tail⟩)
  | .restore :: rest => (t.saved.headD attrs, ⟨rest, t.saved.tail, t.own.tail⟩)

/-- The runner with its runs; `active` are those under way, the latest first. -/
structure Shared (ι : Type) where
  attrs : ScopeAttrs
  threads : ι → Thread
  active : List ι

section Concurrent
variable {ι : Type} [DecidableEq ι]

def Shared.start (attrs : ScopeAttrs) (programs : ι → List ScopeStep) : Shared ι :=
  ⟨attrs, fun i => ⟨programs i, [], []⟩, []⟩

/-- The run `i` takes a step. -/
def Shared.next (s : Shared ι) (i : ι) : Shared ι where
  attrs := ((s.threads i).step s.attrs).1
  threads := Function.update s.threads i ((s.threads i).step s.attrs).2
  active :=
    match (s.threads i).todo with
    | .install _ :: _ => i :: s.active
    | .restore :: _ => s.active.erase i
    | _ => s.active

/-- The step of run `i`, if it is an op, is dispatched with the attributes of its own scene
or container. -/
def Undisturbed (s : Shared ι) (i : ι) : Prop :=
  match (s.threads i).todo with
  | .op _ _ :: _ => (s.threads i).own.head? = some s.attrs
  | _ => True

/-- Run `i` starts, or no run that started later is under way. -/
def Nested (s : Shared ι) (i : ι) : Prop :=
  match (s.threads i).todo with
  | [] => True
  | .install _ :: _ => True
  | _ => s.active.head? = some i

/-! ### The invariant -/

/-- The attributes are those of the latest run; what it found outermost are those of the
run before it, and so on to the initial ones. -/
def Linked (initial : ScopeAttrs) (threads : ι → Thread) : ScopeAttrs → List ι → Prop
  | attrs, [] => attrs = initial
  | attrs, i :: rest => ∃ outer base, (threads i).own = attrs :: outer ∧
      (threads i).saved = outer ++ [base] ∧ Linked initial threads base rest

omit [DecidableEq ι] in
theorem Linked.congr {initial : ScopeAttrs} {threads threads' : ι → Thread} {attrs : ScopeAttrs}
    {active : List ι} (heq : ∀ i ∈ active, threads' i = threads i)
    (h : Linked initial threads attrs active) : Linked initial threads' attrs active := by
  induction active generalizing attrs with
  | nil => exact h
  | cons i rest ih =>
    obtain ⟨outer, base, hown, hsaved, hrest⟩ := h
    have hi := heq i (List.mem_cons_self ..)
    exact ⟨outer, base, by rw [hi, hown], by rw [hi, hsaved],
      ih (fun j hj => heq j (List.mem_cons_of_mem i hj)) hrest⟩

omit [DecidableEq ι] in
/-- An active run has attributes of its own. -/
theorem Linked.own_ne_nil {initial : ScopeAttrs} {threads : ι → Thread} {attrs : ScopeAttrs}
    {active : List ι} (h : Linked initial threads attrs active) {i : ι} (hi : i ∈ active) :
    (threads i).own ≠ [] := by
  induction active generalizing attrs with
  | nil => cases hi
  | cons j rest ih =>
    obtain ⟨outer, base, hown, -, hrest⟩ := h
    rcases List.mem_cons.mp hi with rfl | hi
    · rw [hown]
      exact List.cons_ne_nil _ _
    · exact ih hrest hi

/-- The run has begun and not ended exactly if it is among the active ones. -/
structure Consistent (initial : ScopeAttrs) (s : Shared ι) : Prop where
  linked : Linked initial s.threads s.attrs s.active
  nodup : s.active.Nodup
  follows : ∀ i, Follows (s.threads i).own.length (s.threads i).todo
  idle : ∀ i, i ∉ s.active → (s.threads i).own = [] ∧ (s.threads i).saved = []

omit [DecidableEq ι] in
theorem start_consistent (attrs : ScopeAttrs) {programs : ι → List ScopeStep}
    (h : ∀ i, Follows 0 (programs i)) : Consistent attrs (Shared.start attrs programs) :=
  ⟨rfl, List.nodup_nil, h, fun _ _ => ⟨rfl, rfl⟩⟩

/-- Nothing about the other runs changes with the step of one. -/
theorem Linked.update {initial : ScopeAttrs} {threads : ι → Thread} {attrs : ScopeAttrs} {active : List ι}
    (h : Linked initial threads attrs active) {i : ι} (hi : i ∉ active) (t : Thread) :
    Linked initial (Function.update threads i t) attrs active :=
  h.congr fun _ hj => Function.update_of_ne (ne_of_mem_of_not_mem hj hi) t threads

omit [DecidableEq ι] in
/-- A run that is under way has something to see and to put back. -/
theorem Consistent.begun {initial : ScopeAttrs} {s : Shared ι} (h : Consistent initial s) {i : ι}
    {rest : List ι} (hactive : s.active = i :: rest) :
    ∃ outer base, (s.threads i).own = s.attrs :: outer ∧ (s.threads i).saved = outer ++ [base] ∧
      Linked initial s.threads base rest := by
  have hlinked := h.linked
  rwa [hactive] at hlinked

/-- A step of the latest run that keeps it under way. -/
theorem Consistent.stay {initial : ScopeAttrs} {s : Shared ι} (h : Consistent initial s) {i : ι}
    {rest : List ι} (hactive : s.active = i :: rest) {t : Thread} {attrs : ScopeAttrs}
    (hnext : (s.threads i).step s.attrs = (attrs, t))
    (hstays : (s.next i).active = s.active) (hfollows : Follows t.own.length t.todo)
    (hlinked : ∀ outer base, (s.threads i).own = s.attrs :: outer →
      (s.threads i).saved = outer ++ [base] →
        ∃ outer', t.own = attrs :: outer' ∧ t.saved = outer' ++ [base]) : Consistent initial (s.next i) := by
  obtain ⟨outer, base, hown, hsaved, hrest⟩ := h.begun hactive
  obtain ⟨outer', hown', hsaved'⟩ := hlinked outer base hown hsaved
  have hnodup := h.nodup
  rw [hactive] at hnodup
  have hthreads : (s.next i).threads = Function.update s.threads i t := by
    show Function.update s.threads i _ = _
    rw [hnext]
  have hattrs : (s.next i).attrs = attrs := congrArg Prod.fst hnext
  refine ⟨?_, by rw [hstays]; exact h.nodup, fun j => ?_, fun j hj => ?_⟩
  · rw [hstays, hactive, hthreads, hattrs]
    refine ⟨outer', base, ?_, ?_, hrest.update (List.nodup_cons.mp hnodup).1 t⟩
    · rw [Function.update_self, hown']
    · rw [Function.update_self, hsaved']
  · rw [hthreads]
    by_cases hij : j = i
    · subst hij
      rwa [Function.update_self]
    · rw [Function.update_of_ne hij]
      exact h.follows j
  · rw [hstays] at hj
    have hij : j ≠ i := fun heq => hj (by rw [heq, hactive]; exact List.mem_cons_self ..)
    rw [hthreads, Function.update_of_ne hij]
    exact h.idle j hj

/-- A run that begins has nothing of its own installed, and nests in those that run. -/
theorem install_consistent {initial : ScopeAttrs} {s : Shared ι} (h : Consistent initial s) {i : ι} {a : ScopeAttrs}
    {rest : List ScopeStep} (htodo : (s.threads i).todo = .install a :: rest) : Consistent initial (s.next i) := by
  have hfollows := h.follows i
  rw [htodo] at hfollows
  have hown : (s.threads i).own = [] := by
    cases hown : (s.threads i).own with
    | nil => rfl
    | cons a' outer =>
      rw [hown] at hfollows
      exact hfollows.elim
  have hidle : i ∉ s.active := fun hmem => h.linked.own_ne_nil hmem hown
  have hnext : s.next i = ⟨a, Function.update s.threads i
      ⟨rest, s.attrs :: (s.threads i).saved, a :: (s.threads i).own⟩, i :: s.active⟩ := by
    have hstep : (s.threads i).step s.attrs =
        (a, ⟨rest, s.attrs :: (s.threads i).saved, a :: (s.threads i).own⟩) := by
      rw [Thread.step, htodo]
    rw [Shared.next, htodo, hstep]
  rw [hown, (h.idle i hidle).2] at hnext
  rw [hnext]
  refine ⟨⟨[], s.attrs, ?_, ?_, h.linked.update hidle _⟩, List.nodup_cons.mpr ⟨hidle, h.nodup⟩,
    fun j => ?_, fun j hj => ?_⟩
  · dsimp only
    rw [Function.update_self]
  · dsimp only
    rw [Function.update_self]
    rfl
  · dsimp only
    by_cases hij : j = i
    · subst hij
      rw [Function.update_self]
      rw [hown] at hfollows
      exact hfollows
    · rw [Function.update_of_ne hij]
      exact h.follows j
  · dsimp only
    rw [Function.update_of_ne fun heq => hj (by rw [heq]; exact List.mem_cons_self ..)]
    exact h.idle j fun hmem => hj (List.mem_cons_of_mem i hmem)

/-- The innermost run ends, and what it found is installed again. -/
theorem restore_consistent {initial : ScopeAttrs} {s : Shared ι} (h : Consistent initial s) {i : ι}
    {rest : List ScopeStep} (htodo : (s.threads i).todo = .restore :: rest) (hnested : s.active.head? = some i) :
    Consistent initial (s.next i) := by
  have hfollows := h.follows i
  rw [htodo] at hfollows
  obtain ⟨others, hactive⟩ := List.head?_eq_some_iff.mp hnested
  obtain ⟨outer, base, hown, hsaved, hrest⟩ := h.begun hactive
  have hnodup := h.nodup
  rw [hactive] at hnodup
  rw [hown] at hfollows
  cases outer with
  | cons above outer => exact hfollows.elim
  | nil =>
    have hnext : s.next i = ⟨base, Function.update s.threads i ⟨rest, [], []⟩, others⟩ := by
      have hstep : (s.threads i).step s.attrs = (base, ⟨rest, [], []⟩) := by
        rw [Thread.step, htodo]
        dsimp only
        rw [hown, hsaved]
        rfl
      rw [Shared.next, htodo, hstep, hactive, List.erase_cons_head]
    rw [hnext]
    have hidle : i ∉ others := (List.nodup_cons.mp hnodup).1
    refine ⟨hrest.update hidle _, (List.nodup_cons.mp hnodup).2, fun j => ?_, fun j hj => ?_⟩
    · dsimp only
      by_cases hij : j = i
      · subst hij
        rw [Function.update_self]
        exact hfollows
      · rw [Function.update_of_ne hij]
        exact h.follows j
    · dsimp only
      by_cases hij : j = i
      · subst hij
        rw [Function.update_self]
        exact ⟨rfl, rfl⟩
      · rw [Function.update_of_ne hij]
        refine h.idle j fun hmem => ?_
        rw [hactive] at hmem
        exact (List.mem_cons.mp hmem).elim hij hj

/-- **A step of a properly nested run keeps the invariant, and is not disturbed.** -/
theorem next_consistent {initial : ScopeAttrs} {s : Shared ι} (h : Consistent initial s) {i : ι}
    (hnested : Nested s i) : Consistent initial (s.next i) ∧ Undisturbed s i := by
  have hfollows := h.follows i
  unfold Undisturbed
  unfold Nested at hnested
  cases htodo : (s.threads i).todo with
  | nil =>
    refine ⟨?_, trivial⟩
    have hsame : s.next i = s := by
      have hstep : (s.threads i).step s.attrs = (s.attrs, s.threads i) := by rw [Thread.step, htodo]
      rw [Shared.next, htodo, hstep, Function.update_eq_self]
    rwa [hsame]
  | cons step rest =>
    rw [htodo] at hfollows hnested
    cases step with
    | install a => exact ⟨install_consistent h htodo, trivial⟩
    | restore => exact ⟨restore_consistent h htodo hnested, trivial⟩
    | op index op =>
      obtain ⟨others, hactive⟩ := List.head?_eq_some_iff.mp hnested
      obtain ⟨outer, base, hown, -, -⟩ := h.begun hactive
      refine ⟨h.stay hactive (t := {s.threads i with todo := rest}) (by rw [Thread.step, htodo])
        (by rw [Shared.next, htodo]) ?_ fun outer' base' hown' hsaved' => ⟨outer', hown', hsaved'⟩, ?_⟩
      · rw [hown] at hfollows ⊢
        exact hfollows
      · rw [hown]
        rfl
    | enter narrowed =>
      obtain ⟨others, hactive⟩ := List.head?_eq_some_iff.mp hnested
      obtain ⟨outer, base, hown, -, -⟩ := h.begun hactive
      have henter : (narrowed <|> (s.threads i).own.head?) = some (narrowed.getD s.attrs) := by
        rw [hown]
        cases narrowed <;> rfl
      refine ⟨h.stay hactive (by rw [Thread.step, htodo]) (by rw [Shared.next, htodo]) ?_
        fun outer' base' hown' hsaved' => ⟨s.attrs :: outer', ?_, ?_⟩, trivial⟩
      · rw [henter]
        rw [hown] at hfollows ⊢
        exact hfollows
      · rw [henter, hown']
        rfl
      · rw [hsaved']
        rfl
    | leave =>
      obtain ⟨others, hactive⟩ := List.head?_eq_some_iff.mp hnested
      obtain ⟨outer, base, hown, hsaved, -⟩ := h.begun hactive
      rw [hown] at hfollows
      cases outer with
      | nil => exact hfollows.elim
      | cons above outer =>
        refine ⟨h.stay hactive (by rw [Thread.step, htodo]) (by rw [Shared.next, htodo]) ?_
          fun outer' base' hown' hsaved' => ⟨outer, ?_, ?_⟩, trivial⟩
        · rw [hown]
          exact hfollows
        · rw [hown, hsaved]
          rfl
        · obtain rfl := (List.cons.inj (hown.symm.trans hown')).2
          rw [hsaved']
          rfl

/-- A run of properly nested steps keeps the invariant, and none of its ops is disturbed. -/
theorem nested_consistent {initial : ScopeAttrs} {s : Shared ι} (h : Consistent initial s)
    {schedule : List ι} (hnested : Along Shared.next Nested s schedule) :
    Consistent initial (schedule.foldl Shared.next s) ∧ Along Shared.next Undisturbed s schedule := by
  induction schedule generalizing s with
  | nil => exact ⟨h, trivial⟩
  | cons i rest ih =>
    obtain ⟨hi, hrest⟩ := hnested
    obtain ⟨hnext, hundisturbed⟩ := next_consistent h hi
    obtain ⟨hfinal, hlater⟩ := ih hnext hrest
    exact ⟨hfinal, hundisturbed, hlater⟩

omit [DecidableEq ι] in
/-- When every run has ended, the attributes are the initial ones. -/
theorem Consistent.ended {initial : ScopeAttrs} {s : Shared ι} (h : Consistent initial s)
    (hended : ∀ i, (s.threads i).todo = []) : s.attrs = initial := by
  cases hactive : s.active with
  | nil =>
    have hlinked := h.linked
    rwa [hactive] at hlinked
  | cons i rest =>
    obtain ⟨outer, base, hown, -, -⟩ := h.begun hactive
    have hfollows := h.follows i
    rw [hended i, hown] at hfollows
    exact hfollows.elim

/-! ### Runs of scenes -/

/-- What the run of a scene does to the attributes, as the runner logs it. -/
def program {σ : Type} (svc : Services σ) (sceneKey : String) (scene : Scene) (s : RunState σ) :
    List ScopeStep :=
  (runScene svc sceneKey scene {s with trace := []}).2.trace

theorem program_follows {σ : Type} (svc : Services σ) (sceneKey : String) (scene : Scene)
    (s : RunState σ) : Follows 0 (program svc sceneKey scene s) := by
  obtain ⟨steps, htrace, hfollows, -⟩ := runScene_follows svc sceneKey scene {s with trace := []}
  rw [program, htrace]
  exact hfollows

/-- The runs of scenes do not interfere under a schedule: every op is dispatched with the
attributes of its own scene or container, and once all have ended the attributes are the
initial ones. -/
def Separate (attrs : ScopeAttrs) (programs : ι → List ScopeStep) (schedule : List ι) : Prop :=
  Along Shared.next Undisturbed (Shared.start attrs programs) schedule ∧
    let final := schedule.foldl Shared.next (Shared.start attrs programs)
    (∀ i, (final.threads i).todo = []) → final.attrs = attrs

/-- **Runs of any scenes do not interfere, as long as a run only steps while no run that
started after it is under way.** -/
theorem nested_separate {σ : Type} (svc : ι → Services σ) (sceneKey : ι → String) (scene : ι → Scene)
    (state : ι → RunState σ) (attrs : ScopeAttrs) (schedule : List ι)
    (h : Along Shared.next Nested
      (Shared.start attrs fun i => program (svc i) (sceneKey i) (scene i) (state i)) schedule) :
    Separate attrs (fun i => program (svc i) (sceneKey i) (scene i) (state i)) schedule := by
  have hstart := start_consistent attrs fun i =>
    program_follows (svc i) (sceneKey i) (scene i) (state i)
  obtain ⟨hfinal, hundisturbed⟩ := nested_consistent hstart h
  exact ⟨hundisturbed, hfinal.ended⟩

end Concurrent

/-- Two networks, with a transport each. -/
def twoNetworks : RunState World :=
  ⟨⟨none, false⟩,
    ⟨⟨[⟨"n1", .rf, some "AABBCCDDEEFF"⟩, ⟨"n2", .rf, some "AABBCCDDEE00"⟩], [], [],
      [⟨0, some "n1", "AABBCCDDEEFF"⟩, ⟨1, some "n2", "AABBCCDDEE00"⟩]⟩, []⟩, [], []⟩

/-- A scene for one network that fires the armed effects. -/
def syncScene (networkId : String) : Scene :=
  ⟨0, networkId, networkId, .null, .null, [.sync], true, .explicit [networkId]⟩

/-- What the runs of the scenes of the two networks do. -/
def twoPrograms (first : Bool) : List ScopeStep :=
  program (services noDevices none) "scene" (syncScene (if first then "n1" else "n2")) twoNetworks

/-- The sync of the first scene goes out on the network of the second, and the scope of the
first stays installed for good. -/
theorem crossed_disturbed :
    ¬ Along Shared.next Undisturbed (Shared.start ⟨none, false⟩ twoPrograms) [true, false, true] ∧
      let final := [true, false, true, true, false, false].foldl Shared.next
        (Shared.start ⟨none, false⟩ twoPrograms)
      (∀ i, (final.threads i).todo = []) ∧ final.attrs = ⟨some ["n1"], false⟩ := by
  refine ⟨fun h => ?_, fun i => ?_, rfl⟩
  · have hseen : some (⟨some ["n1"], false⟩ : ScopeAttrs) = some ⟨some ["n2"], false⟩ := h.2.2.1
    exact absurd hseen (by decide)
  · cases i <;> rfl

/-- One run inside the other. -/
theorem nested_separate_twoPrograms :
    Separate ⟨none, false⟩ twoPrograms [true, false, false, false, true, true] := by
  have hnested : Along Shared.next Nested (Shared.start ⟨none, false⟩ twoPrograms)
      [true, false, false, false, true, true] := by
    refine ⟨trivial, trivial, ?_, ?_, ?_, ?_, trivial⟩ <;> rfl
  have hseparate := nested_separate (fun _ : Bool => services noDevices none) (fun _ => "scene")
    (fun first => syncScene (if first then "n1" else "n2")) (fun _ => twoNetworks) ⟨none, false⟩
    [true, false, false, false, true, true] hnested
  exact hseparate

end RaceLink.Runner
