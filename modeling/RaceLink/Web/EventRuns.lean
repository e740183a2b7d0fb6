import RaceLink.Web.Events

/-! Whole runs of the event stream.

Seen from the states of the gateways alone, the threads are publishers of the rows of a snapshot; seen from
the task alone, of its record. So once nobody is between a change and the queues, each queue of an open page
has got both as they are. -/
namespace RaceLink.Web.Events
open Library Publishing
open Python (Json)

variable {κ ω ι β : Type}

/-! ### Two views of a bridge -/

def Message.rows : Message → Option (List (String × Slot))
  | .master rows => some rows
  | .task _ => none
  | .refresh _ => none

def Message.record : Message → Option (List (Unit × Option Tasks.Task))
  | .master _ => none
  | .task t => some [((), t)]
  | .refresh _ => none

/-- A bridge by some cells, and the messages about them. -/
def Bridge.seen (of : Message → Option (List (ι × β))) (cells : ι → β) (f : Bridge κ) : Published ι β κ :=
  { cells, clients := f.clients, inbox := fun c => (f.queue c).filterMap of }

def Bridge.masters (f : Bridge κ) : Published String Slot κ := f.seen Message.rows f.slots

def Bridge.record (f : Bridge κ) : Published Unit (Option Tasks.Task) κ :=
  f.seen Message.record fun _ => f.tasks.task

/-- A message on the way is only seen if it is about the cells. -/
def sends (of : Message → Option (List (ι × β))) (message : Message) (left dead : List κ) : Publisher ι β κ :=
  match of message with
  | some snapshot => .sending snapshot left dead
  | none => .idle

/-- Where a thread is with the states of the gateways. -/
def Pc.masters : Pc κ → Publisher String Slot κ
  | .setting _ _ changed => .writing changed
  | .storing _ _ _ _ changed => .writing changed
  | .stamped => .writing true
  | .reading whom rows left => .reading whom rows left
  | .sending message left dead => sends Message.rows message left dead
  | _ => .idle

/-- Where a thread is with the task. A page that connects is sent the states of the gateways first. -/
def Pc.record : Pc κ → Publisher Unit (Option Tasks.Task) κ
  | .updated => .writing true
  | .taken t => .reading none [((), t)] []
  | .sending message left dead => sends Message.record message left dead
  | .reading (some c) _ _ => .reading (some c) [] [()]
  | .greeting c => .reading (some c) [] [()]
  | .greeted c t => .reading (some c) [((), t)] []
  | _ => .idle

/-- A thread that has changed a state, or the task, begins its snapshot only if no other one is on the way
with one. -/
def InTurn (s : Threads ω (Pc κ) (Bridge κ)) (a : Act κ ω) : Prop :=
  ∀ p now, a = .next p now → (s.pc p = .stamped → ∀ q, ¬ Under (s.pc q).masters) ∧
    (s.pc p = .updated → ∀ q, ¬ Under (s.pc q).record)

theorem masters_done {s : Threads ω (Pc κ) (Bridge κ)} (h : Done s) :
    Publishing.Done (s.view Pc.masters Bridge.masters) := fun p => congrArg Pc.masters (h p)

theorem record_done {s : Threads ω (Pc κ) (Bridge κ)} (h : Done s) :
    Publishing.Done (s.view Pc.record Bridge.record) := fun p => congrArg Pc.record (h p)

theorem Message.rows_eq_some {message : Message} {rows : List (String × Slot)} (h : message.rows = some rows) :
    message = .master rows := by
  cases message with
  | master _ => rw [Option.some.inj h]
  | task _ => cases h
  | refresh _ => cases h

theorem Message.record_eq_some {message : Message} {t : Option Tasks.Task} (h : message.record = some [((), t)]) :
    message = .task t := by
  cases message with
  | master _ => cases h
  | task u =>
    cases h
    rfl
  | refresh _ => cases h

section Seen
variable [DecidableEq κ] {of : Message → Option (List (ι × β))} {cells : ι → β} {f : Bridge κ}

theorem seen_put (c : κ) {message : Message} {snapshot : List (ι × β)} (h : of message = some snapshot) :
    (f.put c message).seen of cells = put (f.seen of cells) c snapshot := by
  simp only [Bridge.seen, Bridge.put, put, Published.mk.injEq, true_and]
  funext d
  by_cases hd : d = c
  · rw [hd, Function.update_self, Function.update_self, List.filterMap_append, List.filterMap_cons_some h,
      List.filterMap_nil]
  · rw [Function.update_of_ne hd, Function.update_of_ne hd]

theorem seen_put_none (c : κ) {message : Message} (h : of message = none) :
    (f.put c message).seen of cells = f.seen of cells := by
  simp only [Bridge.seen, Bridge.put, Published.mk.injEq, true_and]
  funext d
  by_cases hd : d = c
  · rw [hd, Function.update_self, List.filterMap_append, List.filterMap_cons_none h, List.filterMap_nil,
      List.append_nil]
  · rw [Function.update_of_ne hd]

theorem seen_add (c : κ) : (f.add c).seen of cells = add (f.seen of cells) c := by
  simp only [Bridge.seen, Bridge.add, add, Published.mk.injEq, true_and]
  funext d
  by_cases hd : d = c
  · rw [hd, Function.update_self, Function.update_self, List.filterMap_nil]
  · rw [Function.update_of_ne hd, Function.update_of_ne hd]

end Seen

/-! ### The steps of a thread -/

section Goes
variable [DecidableEq ι] [DecidableEq κ]

/-- A message goes to the next queue, or the queues that took none are discarded. -/
theorem sending_goes (order : List ι) (Free : Prop) (of : Message → Option (List (ι × β))) (cells : ι → β)
    (f : Bridge κ) (message : Message) (c : κ) (left dead : List κ) :
    Goes order (f.seen of cells) Free (sends of message (c :: left) dead)
      (sends of message left dead, (f.put c message).seen of cells) := by
  unfold sends
  split
  · next h =>
    rw [seen_put c h]
    exact .advances (fun h => by cases h)
  · next h =>
    rw [seen_put_none c h]
    exact .stays _

theorem sent_goes (order : List ι) (Free : Prop) (of : Message → Option (List (ι × β))) (cells : ι → β)
    (f : Bridge κ) (message : Message) (dead : List κ) :
    Goes order (f.seen of cells) Free (sends of message [] dead) (.idle, (f.discard dead).seen of cells) := by
  unfold sends
  split
  · exact .advances (fun h => by cases h)
  · exact .leaves _ dead

theorem failed_goes (order : List ι) (Free : Prop) (of : Message → Option (List (ι × β))) (f : Published ι β κ)
    (message : Message) (c : κ) (left dead : List κ) :
    Goes order f Free (sends of message (c :: left) dead) (sends of message left (c :: dead), f) := by
  unfold sends
  split
  · exact .fails _ _ _ _
  · exact .stays _

end Goes

section Views
variable [DecidableEq κ]

theorem masters_goes (networks : List String) (f : Bridge κ) (now : Json) (p : Pc κ) :
    Goes networks f.masters (p = .stamped) p.masters
      ((advance networks f now p).1.masters, (advance networks f now p).2.masters) := by
  cases p with
  | idle => exact .stays _
  | setting networkId left changed =>
    cases left with
    | nil =>
      cases changed with
      | false => exact .advances (fun h => by cases h)
      | true => exact .writes _ _ _
    | cons e left =>
      rw [advance]
      split
      · exact .stays _
      · exact .stays _
  | storing networkId key value left changed => exact .writes _ _ _
  | stamped => exact .begins rfl
  | reading whom rows left =>
    cases left with
    | cons networkId left => exact .advances (fun h => by cases h)
    | nil =>
      cases whom with
      | none => exact .advances (fun h => by cases h)
      | some c =>
        have hput : (f.put c (.master rows)).masters = put f.masters c rows := seen_put c rfl
        rw [advance, hput]
        exact .advances (fun h => by cases h)
  | updated => exact .stays _
  | taken t => exact .stays _
  | refreshing what => exact .stays _
  | sending message left dead =>
    cases left with
    | nil => exact sent_goes ..
    | cons c left => exact sending_goes ..
  | greeting c => exact .stays _
  | greeted c t =>
    have hput : (f.put c (.task t)).masters = f.masters := seen_put_none c rfl
    rw [advance, hput]
    exact .stays _

theorem record_goes (networks : List String) (f : Bridge κ) (now : Json) (p : Pc κ) :
    Goes [()] f.record (p = .updated) p.record
      ((advance networks f now p).1.record, (advance networks f now p).2.record) := by
  cases p with
  | idle => exact .stays _
  | setting networkId left changed =>
    cases left with
    | nil =>
      cases changed with
      | false => exact .stays _
      | true => exact .stays _
    | cons e left =>
      rw [advance]
      split
      · exact .stays _
      · exact .stays _
  | storing networkId key value left changed => exact .stays _
  | stamped => exact .stays _
  | reading whom rows left =>
    cases left with
    | cons networkId left =>
      cases whom with
      | none => exact .stays _
      | some c => exact .stays _
    | nil =>
      cases whom with
      | none => exact .stays _
      | some c =>
        have hput : (f.put c (.master rows)).record = f.record := seen_put_none c rfl
        rw [advance, hput]
        exact .stays _
  | updated => exact .reads rfl rfl
  | taken t => exact .advances (fun h => by cases h)
  | refreshing what => exact .stays _
  | sending message left dead =>
    cases left with
    | nil => exact sent_goes ..
    | cons c left => exact sending_goes ..
  | greeting c => exact .advances (fun h => by cases h)
  | greeted c t =>
    have hput : (f.put c (.task t)).record = put f.record c [((), t)] := seen_put c rfl
    rw [advance, hput]
    exact .advances (fun h => by cases h)

end Views

/-! ### Runs -/

section Runs
variable [DecidableEq κ] [DecidableEq ω] {networks : List String} {s t : Threads ω (Pc κ) (Bridge κ)} {a : Act κ ω}

/-- What a step does, if it does anything. -/
inductive Moves (networks : List String) (s : Threads ω (Pc κ) (Bridge κ)) :
    Act κ ω → Threads ω (Pc κ) (Bridge κ) → Prop where
  | stays (a : Act κ ω) : Moves networks s a s
  | set {p : ω} (networkId : String) (updates : Updates) : s.pc p = .idle →
      Moves networks s (.set p networkId updates) (s.move p (.setting networkId updates false, s.shared))
  | task {p : ω} (call : TaskCall) (tasks : Tasks.Fields) : s.pc p = .idle →
      Moves networks s (.task p call) (s.move p (.updated, {s.shared with tasks}))
  | refresh {p : ω} (what : List String) : s.pc p = .idle →
      Moves networks s (.refresh p what) (s.move p (.refreshing what, s.shared))
  | connect {p : ω} (c : κ) : s.pc p = .idle →
      Moves networks s (.connect p c) (s.move p (.reading (some c) [] networks, s.shared.add c))
  | next (p : ω) (now : Json) : Moves networks s (.next p now) (s.move p (advance networks s.shared now (s.pc p)))
  | fail {p : ω} {message : Message} {c : κ} {left dead : List κ} : s.pc p = .sending message (c :: left) dead →
      Moves networks s (.fail p) (s.move p (.sending message left (c :: dead), s.shared))
  | disconnect (c : κ) : Moves networks s (.disconnect c) ⟨s.shared.discard [c], s.pc⟩

theorem moves_step (networks : List String) (s : Threads ω (Pc κ) (Bridge κ)) (a : Act κ ω) :
    Moves networks s a (step networks s a) := by
  cases a with
  | set p networkId updates =>
    simp only [step]
    split
    · next hp => exact .set _ _ hp
    · exact .stays _
  | task p call =>
    simp only [step]
    split
    · next hp _ => exact .task _ _ hp
    · exact .stays _
  | refresh p what =>
    simp only [step]
    split
    · next hp => exact .refresh _ hp
    · exact .stays _
  | connect p c =>
    simp only [step]
    split
    · next hp => exact .connect _ hp
    · exact .stays _
  | next p now => exact .next p now
  | fail p =>
    simp only [step]
    split
    · next hp => exact .fail hp
    · exact .stays _
  | disconnect c => exact .disconnect c

/-- Seen either way, a thread that goes on is a publisher that does. -/
theorem view_move [DecidableEq ι] {order : List ι} {place : Pc κ → Publisher ι β κ}
    {data : Bridge κ → Published ι β κ} {Free : Prop} {p : ω} {next : Pc κ × Bridge κ}
    (h : Goes order (data s.shared) Free (place (s.pc p)) (place next.1, data next.2)) :
    ∃ acts : List (Publishing.Act ι β κ ω),
      (s.move p next).view place data = acts.foldl (Publishing.step order) (s.view place data) ∧
      ((Free → ∀ q, ¬ Under (place (s.pc q))) →
        Along (Publishing.step order) Publishing.InTurn (s.view place data) acts) := by
  rw [Threads.view_move]
  exact Goes.steps (s := s.view place data) h rfl

/-- A step, seen from the states of the gateways. -/
theorem Moves.masters (h : Moves networks s a t) :
    ∃ acts : List (Publishing.Act String Slot κ ω),
      t.view Pc.masters Bridge.masters =
        acts.foldl (Publishing.step networks) (s.view Pc.masters Bridge.masters) ∧
      (InTurn s a →
        Along (Publishing.step networks) Publishing.InTurn (s.view Pc.masters Bridge.masters) acts) := by
  have hmove : ∀ {p : ω} {next : Pc κ × Bridge κ},
      Goes networks s.shared.masters False (s.pc p).masters (next.1.masters, next.2.masters) →
      ∃ acts : List (Publishing.Act String Slot κ ω),
        (s.move p next).view Pc.masters Bridge.masters =
          acts.foldl (Publishing.step networks) (s.view Pc.masters Bridge.masters) ∧
        (InTurn s a →
          Along (Publishing.step networks) Publishing.InTurn (s.view Pc.masters Bridge.masters) acts) := by
    intro p next h
    obtain ⟨acts, hview, halong⟩ := view_move h
    exact ⟨acts, hview, fun _ => halong False.elim⟩
  cases h with
  | stays => exact ⟨[], rfl, fun _ => trivial⟩
  | set networkId updates hp =>
    refine hmove ?_
    rw [hp]
    exact .starts
  | task call tasks hp =>
    refine hmove ?_
    rw [hp]
    exact .stays _
  | refresh what hp =>
    refine hmove ?_
    rw [hp]
    exact .stays _
  | connect c hp =>
    have hadd : (s.shared.add c).masters = add s.shared.masters c := seen_add c
    refine hmove ?_
    rw [hp, hadd]
    exact .joins c
  | next p now =>
    obtain ⟨acts, hview, halong⟩ := view_move (masters_goes networks s.shared now (s.pc p))
    exact ⟨acts, hview, fun hturn => halong (hturn p now rfl).1⟩
  | fail hp =>
    refine hmove ?_
    rw [hp]
    exact failed_goes ..
  | disconnect c => exact ⟨[.leave [c]], rfl, fun _ => ⟨fun p hp => (by cases hp), trivial⟩⟩

/-- A step, seen from the task. -/
theorem Moves.record (h : Moves networks s a t) :
    ∃ acts : List (Publishing.Act Unit (Option Tasks.Task) κ ω),
      t.view Pc.record Bridge.record = acts.foldl (Publishing.step [()]) (s.view Pc.record Bridge.record) ∧
      (InTurn s a →
        Along (Publishing.step [()]) Publishing.InTurn (s.view Pc.record Bridge.record) acts) := by
  have hmove : ∀ {p : ω} {next : Pc κ × Bridge κ},
      Goes [()] s.shared.record False (s.pc p).record (next.1.record, next.2.record) →
      ∃ acts : List (Publishing.Act Unit (Option Tasks.Task) κ ω),
        (s.move p next).view Pc.record Bridge.record =
          acts.foldl (Publishing.step [()]) (s.view Pc.record Bridge.record) ∧
        (InTurn s a →
          Along (Publishing.step [()]) Publishing.InTurn (s.view Pc.record Bridge.record) acts) := by
    intro p next h
    obtain ⟨acts, hview, halong⟩ := view_move h
    exact ⟨acts, hview, fun _ => halong False.elim⟩
  cases h with
  | stays => exact ⟨[], rfl, fun _ => trivial⟩
  | set networkId updates hp =>
    refine hmove ?_
    rw [hp]
    exact .stays _
  | task call tasks hp =>
    have hwrite : ({s.shared with tasks} : Bridge κ).record = write s.shared.record () tasks.task := by
      simp only [Bridge.record, Bridge.seen, write, Published.mk.injEq, and_true]
      rfl
    refine hmove ?_
    rw [hp, hwrite]
    exact .changes _ _
  | refresh what hp =>
    refine hmove ?_
    rw [hp]
    exact .stays _
  | connect c hp =>
    have hadd : (s.shared.add c).record = add s.shared.record c := seen_add c
    refine hmove ?_
    rw [hp, hadd]
    exact .joins c
  | next p now =>
    obtain ⟨acts, hview, halong⟩ := view_move (record_goes networks s.shared now (s.pc p))
    exact ⟨acts, hview, fun hturn => halong (hturn p now rfl).2⟩
  | fail hp =>
    refine hmove ?_
    rw [hp]
    exact failed_goes ..
  | disconnect c => exact ⟨[.leave [c]], rfl, fun _ => ⟨fun p hp => (by cases hp), trivial⟩⟩

/-- A run, seen from the states of the gateways. -/
theorem masters_run (networks : List String) (acts : List (Act κ ω)) :
    ∃ bs : List (Publishing.Act String Slot κ ω),
      (run networks acts).view Pc.masters Bridge.masters =
        bs.foldl (Publishing.step networks) (Publishing.begun fun _ => unknown) ∧
      (Along (step networks) InTurn begun acts →
        Along (Publishing.step networks) Publishing.InTurn (Publishing.begun fun _ => unknown) bs) :=
  simulated (fun s a => (moves_step networks s a).masters) begun acts

/-- A run, seen from the task. -/
theorem record_run (networks : List String) (acts : List (Act κ ω)) :
    ∃ bs : List (Publishing.Act Unit (Option Tasks.Task) κ ω),
      (run networks acts).view Pc.record Bridge.record =
        bs.foldl (Publishing.step [()]) (Publishing.begun fun _ => none) ∧
      (Along (step networks) InTurn begun acts →
        Along (Publishing.step [()]) Publishing.InTurn (Publishing.begun fun _ => none) bs) :=
  simulated (fun s a => (moves_step networks s a).record) begun acts

/-- **Once nobody is between a change and the queues, the queue of each open page has got the states of the
gateways and the task as they are.** -/
theorem stream_current (networks : List String) (acts : List (Act κ ω)) (hdone : Done (run networks acts)) :
    ∀ c ∈ (run networks acts).shared.clients,
      .master (networks.map fun n => (n, (run networks acts).shared.slots n)) ∈
          (run networks acts).shared.queue c ∧
        .task (run networks acts).shared.tasks.task ∈ (run networks acts).shared.queue c := by
  intro c hc
  obtain ⟨bs, hmasters, -⟩ := masters_run networks acts
  obtain ⟨cs, hrecord, -⟩ := record_run networks acts
  have hrows := current_mem_inbox networks _ bs (hmasters ▸ masters_done hdone) c (hmasters ▸ hc)
  have htask := current_mem_inbox [()] _ cs (hrecord ▸ record_done hdone) c (hrecord ▸ hc)
  rw [← hmasters] at hrows
  rw [← hrecord] at htask
  obtain ⟨message, hmessage, heq⟩ := List.mem_filterMap.mp hrows
  obtain ⟨message', hmessage', heq'⟩ := List.mem_filterMap.mp htask
  rw [Message.rows_eq_some heq] at hmessage
  rw [Message.record_eq_some heq'] at hmessage'
  exact ⟨hmessage, hmessage'⟩

/-- A page is opened, and then a gateway changes its state. -/
def opened : List (Act Nat Unit) :=
  .connect () 0 :: List.replicate 4 (.next () .null) ++
    .set () "n" [(.state, .str "IDLE")] :: List.replicate 8 (.next () .null)

theorem stream_current_opened :
    .master (["n"].map fun n => (n, (run ["n"] opened).shared.slots n)) ∈ (run ["n"] opened).shared.queue 0 ∧
      .task (run ["n"] opened).shared.tasks.task ∈ (run ["n"] opened).shared.queue 0 :=
  stream_current ["n"] opened (fun _ => rfl) 0 (by decide)

/-- **If each snapshot of what was changed begins with no other one on the way, those are the last ones it has
got.** -/
theorem stream_last (networks : List String) (acts : List (Act κ ω)) (hturn : Along (step networks) InTurn begun acts)
    (hdone : Done (run networks acts)) :
    ∀ c ∈ (run networks acts).shared.clients,
      (((run networks acts).shared.queue c).filterMap Message.rows).getLast? =
          some (networks.map fun n => (n, (run networks acts).shared.slots n)) ∧
        (((run networks acts).shared.queue c).filterMap Message.record).getLast? =
          some [((), (run networks acts).shared.tasks.task)] := by
  intro c hc
  obtain ⟨bs, hmasters, hrows⟩ := masters_run networks acts
  obtain ⟨cs, hrecord, htask⟩ := record_run networks acts
  have hrows := current_last_inbox networks _ bs (hrows hturn) (hmasters ▸ masters_done hdone) c (hmasters ▸ hc)
  have htask := current_last_inbox [()] _ cs (htask hturn) (hrecord ▸ record_done hdone) c (hrecord ▸ hc)
  rw [← hmasters] at hrows
  rw [← hrecord] at htask
  exact ⟨hrows, htask⟩

/-- A page is opened; two threads change the state of one gateway, and then take their snapshots one by one. -/
def takingTurns : List (Act Nat Bool) :=
  .connect true 0 :: List.replicate 4 (.next true .null) ++
    .set true "n" [(.state, .str "TX")] :: List.replicate 3 (.next true .null) ++
    .set false "n" [(.state, .str "IDLE")] :: List.replicate 3 (.next false .null) ++
    List.replicate 5 (.next true .null) ++ List.replicate 5 (.next false .null)

theorem stream_last_taken :
    (((run ["n"] takingTurns).shared.queue 0).filterMap Message.rows).getLast? =
        some (["n"].map fun n => (n, (run ["n"] takingTurns).shared.slots n)) ∧
      (((run ["n"] takingTurns).shared.queue 0).filterMap Message.record).getLast? =
        some [((), (run ["n"] takingTurns).shared.tasks.task)] := by
  have hother : ∀ {s : Threads Bool (Pc Nat) (Bridge Nat)} {p now}, s.pc p ≠ .stamped → s.pc p ≠ .updated →
      InTurn s (.next p now) := by
    intro s p now hstamped hupdated p' now' heq
    cases heq
    exact ⟨fun h => absurd h hstamped, fun h => absurd h hupdated⟩
  have hnobody : ∀ {s : Threads Bool (Pc Nat) (Bridge Nat)} {a},
      (¬ Under (s.pc true).masters ∧ ¬ Under (s.pc true).record) →
      (¬ Under (s.pc false).masters ∧ ¬ Under (s.pc false).record) → InTurn s a := by
    intro s a htrue hfalse p now _
    refine ⟨fun _ q => ?_, fun _ q => ?_⟩
    · cases q with
      | true => exact htrue.1
      | false => exact hfalse.1
    · cases q with
      | true => exact htrue.2
      | false => exact hfalse.2
  -- Besides the first steps, only the two that begin a snapshot ask for anything.
  have hturn : Along (step ["n"]) InTurn begun takingTurns :=
    ⟨hnobody ⟨id, id⟩ ⟨id, id⟩,
      hother nofun nofun, hother nofun nofun, hother nofun nofun, hother nofun nofun,
      hnobody ⟨id, id⟩ ⟨id, id⟩,
      hother nofun nofun, hother nofun nofun, hother nofun nofun,
      hnobody ⟨id, id⟩ ⟨id, id⟩,
      hother nofun nofun, hother nofun nofun, hother nofun nofun,
      hnobody ⟨id, id⟩ ⟨id, id⟩,
      hother nofun nofun, hother nofun nofun, hother nofun nofun, hother nofun nofun,
      hnobody ⟨id, id⟩ ⟨id, id⟩, hother nofun nofun, hother nofun nofun, hother nofun nofun, hother nofun nofun, trivial⟩
  exact stream_last ["n"] takingTurns hturn (fun p => by cases p <;> rfl) 0 (by decide)

/-- A snapshot that is overtaken by a later one. -/
def overtaken : List (Act Nat Bool) :=
  .connect true 0 :: List.replicate 4 (.next true .null) ++
    .set true "n" [(.state, .str "TX")] :: List.replicate 6 (.next true .null) ++
    .set false "n" [(.state, .str "IDLE")] :: List.replicate 9 (.next false .null) ++
    List.replicate 3 (.next true .null)

/-- The page is left with a state that is no longer so. -/
example : Done (run ["n"] overtaken) ∧ (run ["n"] overtaken).shared.slots "n" .state = .str "IDLE" ∧
    (((run ["n"] overtaken).shared.queue 0).filterMap Message.rows).getLast?.map
      (fun rows => rows.map fun r => r.2 .state) = some [.str "TX"] := by
  refine ⟨fun p => ?_, rfl, rfl⟩
  cases p with
  | false => rfl
  | true => rfl

end Runs

end RaceLink.Web.Events
