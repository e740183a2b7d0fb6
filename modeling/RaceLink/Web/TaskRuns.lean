import Mathlib.Algebra.GroupWithZero.Nat
import RaceLink.Web.Tasks

/-! Runs of the task manager: what holds of the record and its thread wherever an event handler is, and
so of every coherent run. In two runs that are not coherent, a task ends twice and an event is lost. -/
namespace RaceLink.Web.Tasks
open Python Library

/-! ### What is to hold -/

/-- The thread of a task has been started and has not ended. -/
def Worker.Alive : Worker → Prop
  | .absent | .announcing | .spawning | .lost | .gone => False
  | _ => True

/-- Nothing is left that could end the task. -/
def Worker.Gone : Worker → Prop
  | .lost | .gone => True
  | _ => False

/-- The counter grows by one. -/
def Update.Counts (u : Update) (t : Task) : Prop :=
  match u with
  | .rxReplies _ => (u.apply t).rxReplies = t.rxReplies + 1
  | .rxWindowEvents _ => (u.apply t).rxWindowEvents = t.rxWindowEvents + 1
  | _ => True

section
variable {τ : Type}

/-- The task a step reads or writes the record for. -/
def concerns (s : Threads τ Pc Fields) : Act τ → Option Nat
  | .next i => match s.pc i with
    | .checked _ id => some id
    | .writing _ id => some id
    | _ => none
  | .progress k _ => match s.shared.worker k with
    | .running => some k
    | _ => none
  | .work k _ => match s.shared.worker k with
    | .finishing _ => some k
    | .failing _ => some k
    | _ => none
  | _ => none

/-- **What a step is to leave.** -/
structure StepRight [DecidableEq τ] (s : Threads τ Pc Fields) (act : Act τ) : Prop where
  one : ∀ k k', ((step s act).shared.worker k).Alive → ((step s act).shared.worker k').Alive → k = k'
  /-- A task that nothing is left to end has ended once, by its own thread. -/
  ended : ∀ k, ((step s act).shared.worker k).Gone → (step s act).shared.ends k = [k]
  once : ∀ k, (step s act).shared.ends k = [] ∨ (step s act).shared.ends k = [k]
  /-- The record is that of the task the step is for, and is not terminal. -/
  own : ∀ k, concerns s act = some k → ∃ t, s.shared.task = some t ∧ t.id = k ∧ t.state = .running
  busy : ∀ name info, act = .start name info → isRunning s.shared → step s act = s
  counts : ∀ i u k t, act = .next i → s.pc i = .writing u k → s.shared.task = some t → u.Counts t

/-! ### The invariant -/

/-- The places of an event between its check and its write. -/
def Pc.Inside : Pc → Prop
  | .checked _ _ => True
  | .writing _ _ => True
  | _ => False

/-- The task has yet to end. -/
def Worker.Ahead : Worker → Prop
  | .announcing | .spawning | .begun | .running | .finishing _ | .failing _ => True
  | _ => False

/-- The task has ended. -/
def Worker.Ended : Worker → Prop
  | .finished | .noting | .refreshing | .failed | .gone => True
  | _ => False

/-- The record is that of the last task, and all tasks before it have ended and their threads too. -/
structure Settled (f : Fields) : Prop where
  current : ∀ t, f.task = some t → t.id = f.taskSeq
  made : 0 < f.taskSeq → ∃ t, f.task = some t
  absent : ∀ k, k = 0 ∨ f.taskSeq < k → f.worker k = .absent ∧ f.ends k = []
  before : ∀ k, 0 < k → k < f.taskSeq → f.worker k = .gone ∧ f.ends k = [k]
  latest : ∀ t, f.task = some t → 0 < f.taskSeq ∧
    (((f.worker f.taskSeq).Ahead ∧ t.state = .running ∧ f.ends f.taskSeq = []) ∨
      ((f.worker f.taskSeq).Ended ∧ t.state ≠ .running ∧ f.ends f.taskSeq = [f.taskSeq]))

/-- The task that was checked still runs. -/
def Runs (f : Fields) (id : Nat) (t : Task) : Prop := f.task = some t ∧ t.id = id ∧ t.state = .running

/-- An event writes what is due. -/
def Update.Due (u : Update) (t : Task) : Prop :=
  match u with
  | .rxReplies n => n = t.rxReplies + 1
  | .rxWindowEvents n => n = t.rxWindowEvents + 1
  | .lastError _ => True
  | _ => False

def Says : Pc → Fields → Prop
  | .checked _ id, f => Settled f ∧ ∃ t, Runs f id t
  | .writing u id, f => Settled f ∧ ∃ t, Runs f id t ∧ u.Due t
  | _, f => Settled f

def sections : Sections Pc Fields where
  Inside := Pc.Inside
  Says := Says
  settled := Settled
  outside p f hp := by
    cases p with
    | idle => exact Iff.rfl
    | signalling _ => exact Iff.rfl
    | _ => exact (hp trivial).elim

/-- A task is started when the thread of the last one has ended, and ends when no event is between its
check and its write; no event is checked while another one is. What tells that a task is started or
done does not raise. -/
def Coherent (s : Threads τ Pc Fields) : Act τ → Prop
  | .start _ _ => isRunning s.shared ∨ sections.Quiet s ∧ ∀ k ≤ s.shared.taskSeq, ¬ (s.shared.worker k).Alive
  | .receive _ event => (receive s.shared event).Inside → sections.Quiet s
  | .work k raises => match s.shared.worker k with
    | .announcing | .finished | .noting | .refreshing => raises = none
    | .finishing _ | .failing _ => sections.Quiet s
    | _ => True
  | _ => True

end

variable {f f' : Fields} {k : Nat} {p : Pc} {t : Task} {u : Update}

/-! ### The worker -/

theorem Settled.of_says (h : Says p f) : Settled f := by
  cases p with
  | checked _ _ => exact h.1
  | writing _ _ => exact h.1
  | _ => exact h

/-- A thread that is neither absent nor over is that of the last task. -/
theorem Settled.last (h : Settled f) (habsent : f.worker k ≠ .absent) (hover : f.worker k ≠ .gone) :
    k = f.taskSeq ∧ 0 < k := by
  have hk : ¬ (k = 0 ∨ f.taskSeq < k) := fun hk => habsent (h.absent k hk).1
  have hlast : ¬ (0 < k ∧ k < f.taskSeq) := fun hk => hover (h.before k hk.1 hk.2).1
  omega

theorem Worker.Ahead.not_ended {w : Worker} (h : w.Ahead) : ¬ w.Ended := by
  cases w <;> first | exact id | exact h.elim

/-- The record and the stage of a task that has yet to end. -/
theorem Settled.ahead (h : Settled f) (hahead : (f.worker k).Ahead) :
    k = f.taskSeq ∧ 0 < k ∧ ∃ t, f.task = some t ∧ t.id = k ∧ t.state = .running ∧ f.ends k = [] := by
  obtain ⟨rfl, hpos⟩ := h.last (fun heq => by rw [heq] at hahead; exact hahead)
    (fun heq => by rw [heq] at hahead; exact hahead)
  obtain ⟨t, ht⟩ := h.made hpos
  refine ⟨rfl, hpos, t, ht, h.current t ht, ?_⟩
  rcases (h.latest t ht).2 with ⟨-, hstage⟩ | ⟨hended, -⟩
  · exact hstage
  · exact absurd hended hahead.not_ended

/-- The thread of the last task goes on and does not touch the record. -/
theorem Settled.setWorker (h : Settled f) {w : Worker} (habsent : f.worker k ≠ .absent)
    (hover : f.worker k ≠ .gone) (hahead : (f.worker k).Ahead → w.Ahead) (hended : (f.worker k).Ended → w.Ended) :
    Settled (f.setWorker k w) := by
  obtain ⟨rfl, hpos⟩ := h.last habsent hover
  have hsame : ∀ j, j ≠ f.taskSeq → (f.setWorker f.taskSeq w).worker j = f.worker j := fun j hj =>
    Function.update_of_ne hj ..
  have hself : (f.setWorker f.taskSeq w).worker (f.setWorker f.taskSeq w).taskSeq = w := Function.update_self ..
  refine ⟨h.current, h.made, fun j hj => ?_, fun j hjpos hj => ?_, fun t ht => ⟨hpos, ?_⟩⟩
  · have hne : j ≠ f.taskSeq := by
      rintro rfl
      exact hj.elim (fun hzero => absurd hzero (Nat.ne_of_gt hpos)) fun hlt => absurd hlt (Nat.lt_irrefl _)
    rw [hsame j hne]
    exact h.absent j hj
  · rw [hsame j (Nat.ne_of_lt hj)]
    exact h.before j hjpos hj
  · rw [hself]
    exact (h.latest t ht).2.imp (fun hs => ⟨hahead hs.1, hs.2⟩) fun hs => ⟨hended hs.1, hs.2⟩

/-- **The thread of the last task ends it.** -/
theorem Settled.conclude (h : Settled f) (hw : (f.worker k).Ahead) {w : Worker} (hended : w.Ended)
    (hu : ∀ t : Task, (u.apply t).id = t.id ∧ (u.apply t).state ≠ .running) :
    Settled ((Tasks.conclude f k u).setWorker k w) := by
  obtain ⟨rfl, hpos, t, ht, hid, -, hends⟩ := h.ahead hw
  have hconclude : (Tasks.conclude f f.taskSeq u).setWorker f.taskSeq w =
      {f with
        task := some (u.apply t)
        ends := Function.update f.ends f.taskSeq [f.taskSeq]
        worker := Function.update f.worker f.taskSeq w} := by
    unfold Tasks.conclude
    rw [ht]
    dsimp only [Fields.setWorker]
    rw [hid, hends]
    rfl
  rw [hconclude]
  have hother : ∀ j, j ≠ f.taskSeq → Function.update f.worker f.taskSeq w j = f.worker j ∧
      Function.update f.ends f.taskSeq [f.taskSeq] j = f.ends j := fun j hj =>
    ⟨Function.update_of_ne hj .., Function.update_of_ne hj ..⟩
  refine ⟨fun t' ht' => ?_, fun _ => ⟨_, rfl⟩, fun j hj => ?_, fun j hjpos hj => ?_, fun t' ht' => ⟨hpos, .inr ?_⟩⟩
  · obtain rfl := Option.some.inj ht'
    exact (hu t).1.trans hid
  · have hne : j ≠ f.taskSeq := by
      rintro rfl
      exact hj.elim (fun hzero => absurd hzero (Nat.ne_of_gt hpos)) fun hlt => absurd hlt (Nat.lt_irrefl _)
    dsimp only
    rw [(hother j hne).1, (hother j hne).2]
    exact h.absent j hj
  · dsimp only
    rw [(hother j (Nat.ne_of_lt hj)).1, (hother j (Nat.ne_of_lt hj)).2]
    exact h.before j hjpos hj
  · obtain rfl := Option.some.inj ht'
    dsimp only
    rw [Function.update_self, Function.update_self]
    exact ⟨hended, (hu t).2, rfl⟩

/-- **A task is started when the thread of the last one has ended.** -/
theorem Settled.start (h : Settled f) (hidle : ¬ isRunning f) (hover : ∀ k ≤ f.taskSeq, ¬ (f.worker k).Alive)
    (name : String) (info : Option Json) : Settled (Tasks.start f name info) := by
  have hold : ∀ j, 0 < j → j ≤ f.taskSeq → f.worker j = .gone ∧ f.ends j = [j] := by
    intro j hpos hj
    by_cases hlt : j < f.taskSeq
    · exact h.before j hpos hlt
    · obtain rfl : j = f.taskSeq := Nat.le_antisymm hj (Nat.le_of_not_lt hlt)
      obtain ⟨t, ht⟩ := h.made hpos
      rcases (h.latest t ht).2 with ⟨-, hrunning, -⟩ | ⟨hended, -, hends⟩
      · exact absurd ⟨t, ht, hrunning⟩ hidle
      · refine ⟨?_, hends⟩
        have hdead := hover f.taskSeq hj
        cases hw : f.worker f.taskSeq with
        | gone => rfl
        | absent => rw [hw] at hended; exact hended.elim
        | announcing => rw [hw] at hended; exact hended.elim
        | spawning => rw [hw] at hended; exact hended.elim
        | lost => rw [hw] at hended; exact hended.elim
        | _ => rw [hw] at hdead; exact (hdead trivial).elim
  have hnew : Function.update f.worker (f.taskSeq + 1) .announcing (f.taskSeq + 1) = .announcing :=
    Function.update_self ..
  have hother : ∀ j, j ≠ f.taskSeq + 1 →
      Function.update f.worker (f.taskSeq + 1) .announcing j = f.worker j := fun j hj => Function.update_of_ne hj ..
  refine ⟨fun t ht => ?_, fun _ => ⟨_, rfl⟩, fun j hj => ?_, fun j hpos hj => ?_, fun t ht => ?_⟩
  · obtain rfl := Option.some.inj ht
    rfl
  · have hj' : j = 0 ∨ f.taskSeq + 1 < j := hj
    show Function.update f.worker (f.taskSeq + 1) .announcing j = .absent ∧ f.ends j = []
    rw [hother j (by omega)]
    exact h.absent j (by omega)
  · have hj' : j < f.taskSeq + 1 := hj
    show Function.update f.worker (f.taskSeq + 1) .announcing j = .gone ∧ f.ends j = [j]
    rw [hother j (by omega)]
    exact hold j hpos (by omega)
  · obtain rfl := Option.some.inj ht
    refine ⟨Nat.succ_pos _, .inl ⟨?_, rfl, (h.absent _ (.inr (Nat.lt_succ_self _))).2⟩⟩
    show (Function.update f.worker (f.taskSeq + 1) .announcing (f.taskSeq + 1)).Ahead
    rw [hnew]
    trivial

/-! ### The record -/

/-- The record is replaced by one of the same task at the same stage. -/
theorem Settled.record (h : Settled f) (ht : f.task = some t) {t' : Task} (hid : t'.id = t.id)
    (hstate : t'.state = t.state) : Settled {f with task := some t'} := by
  refine ⟨fun t'' ht'' => ?_, fun _ => ⟨t', rfl⟩, h.absent, h.before, fun t'' ht'' => ?_⟩
  · obtain rfl := Option.some.inj ht''
    exact hid.trans (h.current t ht)
  · obtain rfl := Option.some.inj ht''
    show _ ∧ ((_ ∧ t'.state = .running ∧ _) ∨ (_ ∧ t'.state ≠ .running ∧ _))
    rw [hstate]
    exact h.latest t ht

/-- The same task is at the same stage, with the same counters. -/
def Like (f f' : Fields) : Prop := ∀ t, f.task = some t → ∃ t', f'.task = some t' ∧ t'.id = t.id ∧
  t'.state = t.state ∧ t'.rxReplies = t.rxReplies ∧ t'.rxWindowEvents = t.rxWindowEvents

theorem Like.refl (f : Fields) : Like f f := fun t ht => ⟨t, ht, rfl, rfl, rfl, rfl⟩

theorem Like.runs (h : Like f f') {id : Nat} (ht : Runs f id t) : ∃ t', Runs f' id t' ∧ (u.Due t → u.Due t') := by
  obtain ⟨t', ht', hid, hstate, hreplies, hwindows⟩ := h t ht.1
  refine ⟨t', ⟨ht', hid.trans ht.2.1, hstate.trans ht.2.2⟩, fun hdue => ?_⟩
  cases u with
  | rxReplies _ => exact hdue.trans (congrArg (· + 1) hreplies.symm)
  | rxWindowEvents _ => exact hdue.trans (congrArg (· + 1) hwindows.symm)
  | _ => exact hdue

/-- Each place says the same of a record that is like the one before. -/
theorem says_of_like (hlike : Like f f') (hsettled : Settled f → Settled f') (h : Says p f) : Says p f' := by
  cases p with
  | checked event id =>
    obtain ⟨hs, t, ht⟩ := h
    obtain ⟨t', ht', -⟩ := hlike.runs (u := .lastError "") ht
    exact ⟨hsettled hs, t', ht'⟩
  | writing u id =>
    obtain ⟨hs, t, ht, hdue⟩ := h
    obtain ⟨t', ht', hdue'⟩ := hlike.runs ht
    exact ⟨hsettled hs, t', ht', hdue' hdue⟩
  | idle => exact hsettled h
  | signalling _ => exact hsettled h

/-- An update that is due is none of the ends. -/
theorem Update.Due.apply (h : u.Due t) : (u.apply t).id = t.id ∧ (u.apply t).state = t.state ∧ u.Counts t := by
  cases u with
  | rxReplies n => exact ⟨rfl, rfl, h⟩
  | rxWindowEvents n => exact ⟨rfl, rfl, h⟩
  | lastError _ => exact ⟨rfl, rfl, trivial⟩
  | _ => exact h.elim

theorem update_of_task (ht : f.task = some t) : update f u = {f with task := some (u.apply t)} := by
  unfold update
  rw [ht]
  rfl

theorem settled_progress (h : Settled f) (info : Json) : Settled (progress f k info) ∧ Like f (progress f k info) := by
  unfold progress
  cases f.worker k with
  | running =>
    cases ht : f.task with
    | none =>
      have hsame : update f (.info info) = f := by
        unfold update
        rw [ht, Option.map_none, ← ht]
      rw [hsame]
      exact ⟨h, Like.refl f⟩
    | some t =>
      rw [update_of_task ht]
      refine ⟨h.record ht rfl rfl, fun t' ht' => ?_⟩
      obtain rfl := Option.some.inj (ht.symm.trans ht')
      exact ⟨_, rfl, rfl, rfl, rfl, rfl⟩
  | _ => exact ⟨h, Like.refl f⟩

theorem settled_finish (h : Settled f) (outcome : Except String Json) :
    Settled (finish f k outcome) ∧ Like f (finish f k outcome) := by
  unfold finish
  cases hw : f.worker k with
  | running =>
    have hgoes : ∀ w : Worker, w.Ahead → Settled (f.setWorker k w) := fun w hahead =>
      h.setWorker (by rw [hw]; nofun) (by rw [hw]; nofun) (fun _ => hahead) fun hended => by
        rw [hw] at hended
        exact hended.elim
    cases outcome with
    | ok result => exact ⟨hgoes _ trivial, Like.refl f⟩
    | error e => exact ⟨hgoes _ trivial, Like.refl f⟩
  | _ => exact ⟨h, Like.refl f⟩

theorem settled_cancel (h : Settled f) :
    Settled (requestCancel f).2 ∧ Like f (requestCancel f).2 ∧ ¬ (requestCancel f).1.Inside := by
  unfold requestCancel
  cases ht : f.task with
  | none => exact ⟨h, Like.refl f, id⟩
  | some t =>
    dsimp only
    split
    · refine ⟨h.record ht rfl rfl, fun t' ht' => ?_, id⟩
      obtain rfl := Option.some.inj (ht.symm.trans ht')
      exact ⟨_, rfl, rfl, rfl, rfl, rfl⟩
    · exact ⟨h, Like.refl f, id⟩

/-- **The steps of the thread of a task that do not end it.** -/
theorem settled_work (h : Settled f) (raises : Option String)
    (hquiet : match f.worker k with
      | .announcing | .finished | .noting | .refreshing => raises = none
      | .finishing _ | .failing _ => False
      | _ => True) : Settled (work f k raises) ∧ Like f (work f k raises) := by
  have hgoes : ∀ w : Worker, f.worker k ≠ .absent → f.worker k ≠ .gone → ((f.worker k).Ahead → w.Ahead) →
      ((f.worker k).Ended → w.Ended) → Settled (f.setWorker k w) ∧ Like f (f.setWorker k w) :=
    fun w habsent hover hahead hended => ⟨h.setWorker habsent hover hahead hended, Like.refl f⟩
  have hahead : ∀ w : Worker, (f.worker k).Ahead → w.Ahead → Settled (f.setWorker k w) ∧ Like f (f.setWorker k w) :=
    fun w hold hnew => hgoes w (fun heq => by rw [heq] at hold; exact hold) (fun heq => by rw [heq] at hold; exact hold)
      (fun _ => hnew) fun hended => absurd hended hold.not_ended
  unfold work
  cases hw : f.worker k with
  | absent => exact ⟨h, Like.refl f⟩
  | lost => exact ⟨h, Like.refl f⟩
  | running => exact ⟨h, Like.refl f⟩
  | gone => exact ⟨h, Like.refl f⟩
  | announcing =>
    rw [hw] at hquiet hahead
    obtain rfl : raises = none := hquiet
    exact hahead _ trivial trivial
  | spawning =>
    rw [hw] at hahead
    exact hahead _ trivial trivial
  | begun =>
    rw [hw] at hahead
    cases raises
    · exact hahead _ trivial trivial
    · exact hahead _ trivial trivial
  | finishing _ =>
    rw [hw] at hquiet
    exact hquiet.elim
  | failing _ =>
    rw [hw] at hquiet
    exact hquiet.elim
  | finished =>
    rw [hw] at hquiet hgoes
    obtain rfl : raises = none := hquiet
    exact hgoes _ nofun nofun id fun _ => trivial
  | noting =>
    rw [hw] at hquiet hgoes
    obtain rfl : raises = none := hquiet
    exact hgoes _ nofun nofun id fun _ => trivial
  | refreshing =>
    rw [hw] at hquiet hgoes
    obtain rfl : raises = none := hquiet
    exact hgoes _ nofun nofun id fun _ => trivial
  | failed =>
    rw [hw] at hgoes
    exact hgoes _ nofun nofun id fun _ => trivial

/-- The last update of the thread of a task. -/
theorem settled_ending (h : Settled f) (raises : Option String)
    (hending : match f.worker k with
      | .finishing _ | .failing _ => True
      | _ => False) : Settled (work f k raises) := by
  unfold work
  cases hw : f.worker k with
  | finishing result => exact h.conclude (by rw [hw]; trivial) trivial fun _ => ⟨rfl, nofun⟩
  | failing e => exact h.conclude (by rw [hw]; trivial) trivial fun _ => ⟨rfl, nofun⟩
  | _ =>
    rw [hw] at hending
    exact hending.elim

/-! ### Events -/

/-- An event is checked: where its thread is then fits the record. -/
theorem says_receive (h : Settled f) (event : Event) : Says (receive f event) f := by
  unfold receive
  cases ht : f.task with
  | none => exact h
  | some t =>
    dsimp only
    split
    · next hrunning =>
      cases event with
      | state stateByte =>
        dsimp only
        split
        · exact ⟨h, t, ht, rfl, hrunning⟩
        · exact h
      | error text => exact ⟨h, t, ⟨ht, rfl, hrunning⟩, trivial⟩
      | reply reply =>
        dsimp only
        split
        · exact h
        · exact ⟨h, t, ht, rfl, hrunning⟩
    · exact h

/-- What the snapshot has an event write is due. -/
theorem counted_due {event : Event} (h : counted event t = some u) : u.Due t := by
  unfold counted at h
  cases event with
  | state _ =>
    obtain rfl := Option.some.inj h
    exact rfl
  | error _ =>
    obtain rfl := Option.some.inj h
    trivial
  | reply _ =>
    dsimp only at h
    split at h
    · obtain rfl := Option.some.inj h
      exact rfl
    · cases h

/-- **The step from each place leads to what the next place says.** -/
theorem says_advance (h : Says p f) : Says (advance f p).1 (advance f p).2 := by
  cases p with
  | idle => exact h
  | signalling id => exact ⟨h.current, h.made, h.absent, h.before, h.latest⟩
  | checked event id =>
    obtain ⟨hs, t, ht⟩ := h
    rw [advance, ht.1, Option.bind_some]
    cases hc : counted event t with
    | none => exact hs
    | some u => exact ⟨hs, t, ht, counted_due hc⟩
  | writing u id =>
    obtain ⟨hs, t, ht, hdue⟩ := h
    rw [advance, update_of_task ht.1]
    exact hs.record ht.1 hdue.apply.1 hdue.apply.2.1

/-! ### Runs -/

section Threads
variable {τ : Type} {s : Threads τ Pc Fields}

theorem constructed_holds : sections.Holds (constructed : Threads τ Pc Fields) where
  one _ _ hi := hi.elim
  inside _ hi := hi.elim
  quiet _ := ⟨nofun, nofun, fun _ _ => ⟨rfl, rfl⟩, nofun, nofun⟩

/-- Whoever is inside, the record is settled. -/
theorem settled_of_holds (h : sections.Holds s) : Settled s.shared := by
  rcases h.settled_or with hs | ⟨i, -, hs⟩
  · exact hs
  · exact Settled.of_says hs

/-- What the place of a thread inside says of it. -/
theorem says_of_pc {i : τ} (h : sections.Holds s) (hp : s.pc i = p) (hin : p.Inside) : Says p s.shared := by
  subst hp
  exact h.inside i hin

end Threads

variable {τ : Type} [DecidableEq τ] {s : Threads τ Pc Fields} {act : Act τ}

/-- A thread goes on outside, with a record that is like the one before. -/
theorem holds_aside {i : τ} (h : sections.Holds s) (hi : ¬ (s.pc i).Inside) (hp : ¬ p.Inside)
    (hlike : Like s.shared f) (hsettled : Settled f) : sections.Holds (s.move i (p, f)) :=
  h.moveOutside hi hp (fun _ _ hq => says_of_like hlike (fun _ => hsettled) hq) fun _ => hsettled

/-- **A coherent step keeps what the places say.** -/
theorem holds_step (h : sections.Holds s) (hc : Coherent s act) : sections.Holds (step s act) := by
  have hs := settled_of_holds h
  have hlike : ∀ f, Settled f ∧ Like s.shared f → sections.Holds ⟨f, s.pc⟩ := fun f hf =>
    h.disturb (fun _ _ hp => says_of_like hf.2 (fun _ => hf.1) hp) fun _ => hf.1
  cases act with
  | start name info =>
    by_cases hrunning : isRunning s.shared
    · obtain ⟨t, ht, hstate⟩ := hrunning
      have hsame : requestStart s.shared name info = s.shared := by
        unfold requestStart
        rw [ht]
        exact if_pos hstate
      show sections.Holds ⟨requestStart s.shared name info, s.pc⟩
      rw [hsame]
      exact h
    · obtain ⟨hquiet, hover⟩ := hc.resolve_left hrunning
      have hstart : requestStart s.shared name info = Tasks.start s.shared name info := by
        unfold requestStart
        cases ht : s.shared.task with
        | none => rfl
        | some t => exact if_neg fun hstate => hrunning ⟨t, ht, hstate⟩
      show sections.Holds ⟨requestStart s.shared name info, s.pc⟩
      rw [hstart]
      exact h.change hquiet fun _ => hs.start hrunning hover name info
  | cancel i =>
    rw [step]
    split
    · next hidle =>
      obtain ⟨hsettled, hkept, hout⟩ := settled_cancel hs
      exact holds_aside h (by rw [hidle]; exact id) hout hkept hsettled
    · exact h
  | receive i event =>
    rw [step]
    split
    · next hidle =>
      by_cases hin : (receive s.shared event).Inside
      · have hquiet : sections.Quiet s := hc hin
        exact h.move hquiet.alone fun _ => says_receive hs event
      · exact holds_aside h (by rw [hidle]; exact id) hin (Like.refl _) hs
    · exact h
  | next i =>
    by_cases hin : (s.pc i).Inside
    · exact h.move (h.alone hin) fun hp => says_advance hp
    · rw [step]
      cases hp : s.pc i with
      | idle => exact holds_aside h hin id (Like.refl _) hs
      | signalling id' =>
        have hkept : Says (.signalling id') s.shared := hs
        exact holds_aside h hin id (fun t ht => ⟨t, ht, rfl, rfl, rfl, rfl⟩) (says_advance hkept)
      | checked _ _ =>
        rw [hp] at hin
        exact (hin trivial).elim
      | writing _ _ =>
        rw [hp] at hin
        exact (hin trivial).elim
  | work k raises =>
    have hcoherent : match s.shared.worker k with
      | .announcing | .finished | .noting | .refreshing => raises = none
      | .finishing _ | .failing _ => sections.Quiet s
      | _ => True := hc
    cases hw : s.shared.worker k with
    | finishing _ =>
      rw [hw] at hcoherent
      exact h.change hcoherent fun _ => settled_ending hs raises (by rw [hw]; trivial)
    | failing _ =>
      rw [hw] at hcoherent
      exact h.change hcoherent fun _ => settled_ending hs raises (by rw [hw]; trivial)
    | _ =>
      rw [hw] at hcoherent
      exact hlike _ (settled_work hs raises (by rw [hw]; exact hcoherent))
  | progress k info => exact hlike _ (settled_progress hs info)
  | finish k outcome => exact hlike _ (settled_finish hs outcome)

theorem stepRight_of_holds (h : sections.Holds s) (hc : Coherent s act) : StepRight s act where
  one k k' hk hk' := by
    have hs := settled_of_holds (holds_step h hc)
    have hlast : ∀ k, ((step s act).shared.worker k).Alive → k = (step s act).shared.taskSeq := fun k hk =>
      (hs.last (fun heq => by rw [heq] at hk; exact hk) fun heq => by rw [heq] at hk; exact hk).1
    exact (hlast k hk).trans (hlast k' hk').symm
  ended k hk := by
    have hs := settled_of_holds (holds_step h hc)
    by_cases hout : k = 0 ∨ (step s act).shared.taskSeq < k
    · rw [(hs.absent k hout).1] at hk
      exact hk.elim
    · by_cases hlt : k < (step s act).shared.taskSeq
      · exact (hs.before k (by omega) hlt).2
      · obtain rfl : k = (step s act).shared.taskSeq := by omega
        obtain ⟨t, ht⟩ := hs.made (by omega)
        rcases (hs.latest t ht).2 with ⟨hahead, -⟩ | ⟨-, -, hends⟩
        · cases hw : (step s act).shared.worker (step s act).shared.taskSeq <;> rw [hw] at hk hahead <;>
            first | exact hk.elim | exact hahead.elim
        · exact hends
  once k := by
    have hs := settled_of_holds (holds_step h hc)
    by_cases hout : k = 0 ∨ (step s act).shared.taskSeq < k
    · exact .inl (hs.absent k hout).2
    · by_cases hlt : k < (step s act).shared.taskSeq
      · exact .inr (hs.before k (by omega) hlt).2
      · obtain rfl : k = (step s act).shared.taskSeq := by omega
        obtain ⟨t, ht⟩ := hs.made (by omega)
        exact (hs.latest t ht).2.imp (fun hstage => hstage.2.2) fun hstage => hstage.2.2
  own k hk := by
    have hs := settled_of_holds h
    have hworker : ∀ k, (s.shared.worker k).Ahead → ∃ t, s.shared.task = some t ∧ t.id = k ∧ t.state = .running := by
      intro k hahead
      obtain ⟨-, -, t, ht, hid, hstate, -⟩ := hs.ahead hahead
      exact ⟨t, ht, hid, hstate⟩
    cases act with
    | next i =>
      rw [concerns] at hk
      cases hp : s.pc i with
      | checked event id =>
        rw [hp] at hk
        obtain rfl := Option.some.inj hk
        exact (says_of_pc h hp trivial).2
      | writing u id =>
        rw [hp] at hk
        obtain rfl := Option.some.inj hk
        obtain ⟨-, t, ht, -⟩ := says_of_pc h hp trivial
        exact ⟨t, ht⟩
      | _ =>
        rw [hp] at hk
        cases hk
    | progress j _ =>
      rw [concerns] at hk
      cases hw : s.shared.worker j <;> rw [hw] at hk <;> cases hk
      exact hworker _ (by rw [hw]; trivial)
    | work j _ =>
      rw [concerns] at hk
      cases hw : s.shared.worker j <;> rw [hw] at hk <;> cases hk <;> exact hworker _ (by rw [hw]; trivial)
    | _ => cases hk
  busy name info hact hrunning := by
    subst hact
    obtain ⟨t, ht, hstate⟩ := hrunning
    show (⟨requestStart s.shared name info, s.pc⟩ : Threads τ Pc Fields) = s
    have hsame : requestStart s.shared name info = s.shared := by
      unfold requestStart
      rw [ht]
      exact if_pos hstate
    rw [hsame]
  counts i u k t _ hp ht := by
    obtain ⟨-, t', ht', hdue⟩ := says_of_pc h hp trivial
    obtain rfl := Option.some.inj (ht.symm.trans ht'.1)
    exact hdue.apply.2.2

/-- **In a coherent run one task runs at a time, each ends once, and every event counts.** -/
theorem tasks_right {acts : List (Act τ)} (h : Along step Coherent constructed acts) :
    Along step StepRight constructed acts :=
  along_of_invariant (fun _ _ hs hc => holds_step hs hc) (fun _ _ hs hc => stepRight_of_holds hs hc)
    constructed_holds h

/-! ### Some runs -/

instance (f : Fields) : Decidable (isRunning f) :=
  match ht : f.task with
  | none => isFalse fun h => nomatch ht.symm.trans h.choose_spec.1
  | some t =>
    if hstate : t.state = .running then isTrue ⟨t, ht, hstate⟩
    else isFalse fun h => hstate (by
      obtain ⟨t', ht', hstate'⟩ := h
      obtain rfl := Option.some.inj (ht.symm.trans ht')
      exact hstate')

instance (p : Pc) : Decidable p.Inside := by
  cases p <;> unfold Pc.Inside <;> infer_instance

instance (w : Worker) : Decidable w.Alive := by
  cases w <;> unfold Worker.Alive <;> infer_instance

instance (s : Threads (Fin 2) Pc Fields) : Decidable (sections.Quiet s) :=
  inferInstanceAs (Decidable (∀ i : Fin 2, ¬ (s.pc i).Inside))

instance (s : Threads (Fin 2) Pc Fields) (act : Act (Fin 2)) : Decidable (Coherent s act) := by
  cases act with
  | work k raises => unfold Coherent; dsimp only; split <;> infer_instance
  | _ => unfold Coherent; infer_instance

-- There is a thread: named, so that the numerals below do not each prove it.
local instance threads_ne_zero : NeZero 2 := ⟨by decide⟩

/-- A task is started, and its thread begins. -/
def begun (k : Nat) (name : String) : List (Act (Fin 2)) :=
  [.start name none, .work k none, .work k none, .work k none]

/-- A search counts a reply, is cancelled and ends; the next task fails. -/
def orderly : List (Act (Fin 2)) :=
  begun 1 "discover" ++ [.receive 0 (.reply "IDENTIFY_REPLY"), .next 0, .next 0, .cancel 1, .start "status" none,
    .next 1, .finish 1 (.ok .null), .work 1 none, .work 1 none, .work 1 none, .work 1 none] ++
  begun 2 "status" ++ [.progress 2 (.int 1), .finish 2 (.error "TypeError"), .work 2 none, .work 2 none]

theorem tasks_right_orderly : Along step StepRight constructed orderly :=
  tasks_right (by decide +kernel)

/-- The broadcast of a task that is done raises: the task ends a second time, in error. -/
theorem tasks_end_twice : ¬ Along step StepRight constructed
    (begun 1 "discover" ++ [.finish 1 (.ok .null), .work 1 none, .work 1 (some "RuntimeError")] ++ [.work 1 none]) :=
  fun h => absurd (h.last.once 1) (by decide +kernel)

/-- Two gateways open a window at once, and both events read the same count. -/
theorem tasks_lose_event : ¬ Along step StepRight constructed
    (begun 1 "discover" ++ [.receive 0 (.state 2), .receive 1 (.state 2), .next 0, .next 1, .next 0] ++ [.next 1]) :=
  fun h => absurd (show (1 : Nat) = 2 from h.last.counts 1 _ _ _ rfl rfl rfl) (by decide)

end RaceLink.Web.Tasks
