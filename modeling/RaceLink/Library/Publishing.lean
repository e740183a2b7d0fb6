import RaceLink.Library.Runs
import RaceLink.Library.Sections

/-! Publishers that change shared cells and send snapshots of them to clients.

A publisher writes a cell at a time, and reads a snapshot a cell at a time, while the others go on. It
sends the snapshot to the clients it sees afterwards. A client joins first and is sent a snapshot of its
own then. In whatever order this happens, once all publishers are done every client has been sent the
cells as they are. It was the last it was sent, if no publisher that has changed a cell begins its
snapshot while another one is still on the way. -/
namespace RaceLink.Library

/-- Where a publisher is. A snapshot that is read is for the clients, or for the one that joins. -/
inductive Publisher (ι β κ : Type) where
  | idle
  | writing (changed : Bool)
  | reading (whom : Option κ) (rows : List (ι × β)) (left : List ι)
  | sending (snapshot : List (ι × β)) (left dead : List κ)

/-- The cells, the clients, and what each of them has been sent. -/
structure Published (ι β κ : Type) where
  cells : ι → β
  clients : List κ := []
  inbox : κ → List (List (ι × β)) := fun _ => []

variable {ι β κ ω : Type}

/-- The snapshot of the cells as they are. -/
def Published.current (f : Published ι β κ) (order : List ι) : List (ι × β) := order.map fun i => (i, f.cells i)

namespace Publishing
variable {order : List ι} {f f' : Published ι β κ} {c : κ} {rows : List (ι × β)}

/-! ### What a publisher owes a client -/

/-- Rows that hold what the cells do. -/
def Agrees (f : Published ι β κ) (rows : List (ι × β)) : Prop := ∀ r ∈ rows, r.2 = f.cells r.1

/-- A publisher is still to send a client the cells as they are, or to discard it. -/
def Serves (order : List ι) (f : Published ι β κ) (c : κ) : Publisher ι β κ → Prop
  | .idle => False
  | .writing changed => changed = true
  | .reading whom rows left => (∀ d, whom = some d → d = c) ∧ Agrees f rows ∧ rows.map Prod.fst ++ left = order
  | .sending snapshot left dead => snapshot = f.current order ∧ c ∈ left ∨ c ∈ dead

/-- What a publisher has read or sends is what the cells are. -/
def Fresh (order : List ι) (f : Published ι β κ) : Publisher ι β κ → Prop
  | .idle => True
  | .writing _ => True
  | .reading _ rows left => Agrees f rows ∧ rows.map Prod.fst ++ left = order
  | .sending snapshot _ _ => snapshot = f.current order

theorem current_congr (h : f'.cells = f.cells) : f'.current order = f.current order := by
  simp only [Published.current, h]

theorem serves_congr (h : f'.cells = f.cells) (p : Publisher ι β κ) :
    Serves order f' c p ↔ Serves order f c p := by
  cases p with
  | idle => rfl
  | writing changed => rfl
  | reading whom rows left => simp only [Serves, Agrees, h]
  | sending snapshot left dead => simp only [Serves, current_congr h]

theorem fresh_congr (h : f'.cells = f.cells) (p : Publisher ι β κ) : Fresh order f' p ↔ Fresh order f p := by
  cases p with
  | idle => rfl
  | writing changed => rfl
  | reading whom rows left => simp only [Fresh, Agrees, h]
  | sending snapshot left dead => simp only [Fresh, current_congr h]

theorem agrees_nil : Agrees f [] := by
  intro r hr
  cases hr

theorem Agrees.read (h : Agrees f rows) (i : ι) : Agrees f (rows ++ [(i, f.cells i)]) := by
  intro r hr
  rcases List.mem_append.mp hr with hr | hr
  · exact h r hr
  · rw [List.mem_singleton.mp hr]

/-- A snapshot that was read to the end, and that the cells still agree with. -/
theorem Agrees.current (h : Agrees f rows) (hrows : rows.map Prod.fst ++ [] = order) : rows = f.current order := by
  rw [List.append_nil] at hrows
  rw [← hrows, Published.current, List.map_map]
  refine (List.map_id rows).symm.trans (List.map_congr_left fun r hr => ?_)
  exact Prod.ext rfl (h r hr)

/-! ### The steps of a publisher -/

section Advance
variable [DecidableEq κ]

def put (f : Published ι β κ) (c : κ) (snapshot : List (ι × β)) : Published ι β κ :=
  {f with inbox := Function.update f.inbox c (f.inbox c ++ [snapshot])}

/-- A client begins with nothing in its inbox. -/
def add (f : Published ι β κ) (c : κ) : Published ι β κ :=
  {f with clients := f.clients.insert c, inbox := Function.update f.inbox c []}

def discard (f : Published ι β κ) (gone : List κ) : Published ι β κ :=
  {f with clients := f.clients.filter fun c => c ∉ gone}

/-- The next step of a publisher. A client that could not be sent a snapshot is discarded at the end. -/
def advance (order : List ι) (f : Published ι β κ) : Publisher ι β κ → Publisher ι β κ × Published ι β κ
  | .idle => (.idle, f)
  | .writing false => (.idle, f)
  | .writing true => (.reading none [] order, f)
  | .reading whom rows (i :: left) => (.reading whom (rows ++ [(i, f.cells i)]) left, f)
  | .reading none rows [] => (.sending rows f.clients [], f)
  | .reading (some c) rows [] => (.idle, put f c rows)
  | .sending snapshot (c :: left) dead => (.sending snapshot left dead, put f c snapshot)
  | .sending _ [] dead => (.idle, discard f dead)

theorem mem_discard {gone : List κ} : c ∈ (discard f gone).clients ↔ c ∈ f.clients ∧ c ∉ gone := by
  simp [discard]

theorem cells_advance (order : List ι) (f : Published ι β κ) (p : Publisher ι β κ) :
    (advance order f p).2.cells = f.cells := by
  unfold advance
  split <;> rfl

theorem clients_advance {p : Publisher ι β κ} (h : c ∈ (advance order f p).2.clients) : c ∈ f.clients := by
  unfold advance at h
  split at h
  all_goals first | exact h | exact (mem_discard.mp h).1

theorem inbox_put (f : Published ι β κ) (c d : κ) (snapshot : List (ι × β)) : (put f d snapshot).inbox c = f.inbox c ∨
    (put f d snapshot).inbox c = f.inbox c ++ [snapshot] ∧ d = c := by
  by_cases hd : c = d
  · refine .inr ⟨?_, hd.symm⟩
    rw [hd]
    exact Function.update_self ..
  · exact .inl (Function.update_of_ne hd ..)

/-- What a step sends a client: the snapshot that was read for it, or the one that is on the way to it. -/
theorem inbox_advance (order : List ι) (f : Published ι β κ) (c : κ) (p : Publisher ι β κ) :
    (advance order f p).2.inbox c = f.inbox c ∨ ∃ snapshot,
      (advance order f p).2.inbox c = f.inbox c ++ [snapshot] ∧
      (p = .reading (some c) snapshot [] ∨ ∃ left dead, p = .sending snapshot (c :: left) dead) := by
  unfold advance
  split
  · exact .inl rfl
  · exact .inl rfl
  · exact .inl rfl
  · exact .inl rfl
  · exact .inl rfl
  · next d rows =>
    rcases inbox_put f c d rows with h | ⟨h, rfl⟩
    · exact .inl h
    · exact .inr ⟨rows, h, .inl rfl⟩
  · next snapshot d left dead =>
    rcases inbox_put f c d snapshot with h | ⟨h, rfl⟩
    · exact .inl h
    · exact .inr ⟨snapshot, h, .inr ⟨left, dead, rfl⟩⟩
  · exact .inl rfl

theorem mem_inbox_advance {snapshot : List (ι × β)} (h : snapshot ∈ f.inbox c) (p : Publisher ι β κ) :
    snapshot ∈ (advance order f p).2.inbox c := by
  rcases inbox_advance order f c p with heq | ⟨_, heq, -⟩
  · rw [heq]
    exact h
  · rw [heq]
    exact List.mem_append_left _ h

/-- A fresh publisher sends only what the cells are. -/
theorem Fresh.inbox_advance {p : Publisher ι β κ} (h : Fresh order f p) :
    (advance order f p).2.inbox c = f.inbox c ∨
      (advance order f p).2.inbox c = f.inbox c ++ [f.current order] := by
  rcases Publishing.inbox_advance order f c p with hsame | ⟨snapshot, hinbox, rfl | ⟨left, dead, rfl⟩⟩
  · exact .inl hsame
  · exact .inr (hinbox.trans (by rw [h.1.current h.2]))
  · exact .inr (hinbox.trans (by rw [← h]))

theorem Fresh.advance {p : Publisher ι β κ} (h : Fresh order f p) : Fresh order f (advance order f p).1 := by
  unfold Publishing.advance
  split
  · trivial
  · trivial
  · exact ⟨agrees_nil, rfl⟩
  · exact ⟨h.1.read _, by simpa using h.2⟩
  · exact h.1.current h.2
  · trivial
  · exact h
  · trivial

/-- A step of a publisher that serves a client sends it the cells as they are, or still serves it. -/
theorem Serves.advance {p : Publisher ι β κ} (h : Serves order f c p)
    (hclient : c ∈ (advance order f p).2.clients) :
    (∃ old, (advance order f p).2.inbox c = old ++ [f.current order]) ∨
      Serves order f c (advance order f p).1 := by
  have hput : ∀ snapshot, snapshot = f.current order →
      ∃ old, (put f c snapshot).inbox c = old ++ [f.current order] := by
    intro snapshot hsnapshot
    rw [hsnapshot]
    exact ⟨_, Function.update_self ..⟩
  cases p with
  | idle => exact h.elim
  | writing changed =>
    cases h
    refine .inr ⟨?_, agrees_nil, rfl⟩
    intro d hd
    cases hd
  | reading whom rows left =>
    obtain ⟨hwhom, hagrees, horder⟩ := h
    cases left with
    | cons i left => exact .inr ⟨hwhom, hagrees.read i, by simpa using horder⟩
    | nil =>
      cases whom with
      | none => exact .inr (.inl ⟨hagrees.current horder, hclient⟩)
      | some d =>
        cases hwhom d rfl
        exact .inl (hput rows (hagrees.current horder))
  | sending snapshot left dead =>
    cases left with
    | nil =>
      rcases h with ⟨-, hleft⟩ | hdead
      · cases hleft
      · exact absurd hdead (mem_discard.mp hclient).2
    | cons d left =>
      rcases h with ⟨hcurrent, hleft⟩ | hdead
      · rcases List.mem_cons.mp hleft with rfl | hleft
        · exact .inl (hput snapshot hcurrent)
        · exact .inr (.inl ⟨hcurrent, hleft⟩)
      · exact .inr (.inr hdead)

end Advance

/-! ### Runs -/

/-- What happens. -/
inductive Act (ι β κ ω : Type) where
  | start (p : ω)
  | write (p : ω) (i : ι) (b : β)
  | next (p : ω)
  | fail (p : ω)
  | join (p : ω) (c : κ)
  | leave (gone : List κ)

section Step
variable [DecidableEq ι] [DecidableEq κ] [DecidableEq ω]

def write (f : Published ι β κ) (i : ι) (b : β) : Published ι β κ :=
  {f with cells := Function.update f.cells i b}

def step (order : List ι) (s : Threads ω (Publisher ι β κ) (Published ι β κ)) :
    Act ι β κ ω → Threads ω (Publisher ι β κ) (Published ι β κ)
  | .start p => match s.pc p with
    | .idle => s.move p (.writing false, s.shared)
    | _ => s
  | .write p i b => match s.pc p with
    | .writing _ => s.move p (.writing true, write s.shared i b)
    | _ => s
  | .next p => s.move p (advance order s.shared (s.pc p))
  | .fail p => match s.pc p with
    | .sending snapshot (c :: left) dead => s.move p (.sending snapshot left (c :: dead), s.shared)
    | _ => s
  | .join p c => match s.pc p with
    | .idle => s.move p (.reading (some c) [] order, add s.shared c)
    | _ => s
  | .leave gone => ⟨discard s.shared gone, s.pc⟩

end Step

/-- In the beginning there are no clients, and nobody publishes. -/
def begun (cells : ι → β) : Threads ω (Publisher ι β κ) (Published ι β κ) := ⟨{ cells }, fun _ => .idle⟩

def Done (s : Threads ω (Publisher ι β κ) (Published ι β κ)) : Prop := ∀ p, s.pc p = .idle

/-- A publisher that is on the way to its clients with a snapshot. -/
def Under : Publisher ι β κ → Prop
  | .idle => False
  | .writing _ => False
  | .reading .. => True
  | .sending .. => True

/-- A publisher that has changed a cell begins its snapshot only if no other one is under way. -/
def InTurn (s : Threads ω (Publisher ι β κ) (Published ι β κ)) (a : Act ι β κ ω) : Prop :=
  ∀ p, a = .next p → s.pc p = .writing true → ∀ q, ¬ Under (s.pc q)

/-- A client has what the cells are in its inbox, in a way `K`, or some publisher still serves it. -/
def Told (K : List (ι × β) → List (List (ι × β)) → Prop) (order : List ι)
    (s : Threads ω (Publisher ι β κ) (Published ι β κ)) (c : κ) : Prop :=
  K (s.shared.current order) (s.shared.inbox c) ∨ ∃ p, Serves order s.shared c (s.pc p)

variable {s : Threads ω (Publisher ι β κ) (Published ι β κ)} {p : ω} {next : Publisher ι β κ}
  {K : List (ι × β) → List (List (ι × β)) → Prop}

theorem Told.of_done (h : Told K order s c) (hdone : Done s) : K (s.shared.current order) (s.shared.inbox c) := by
  rcases h with h | ⟨p, hp⟩
  · exact h
  · rw [hdone p] at hp
    exact hp.elim

theorem told_served (h : Serves order s.shared c (s.pc p)) : Told K order s c := .inr ⟨p, h⟩

/-- Publishers none of which is under way. -/
theorem fresh_of_not_under {p : Publisher ι β κ} (h : ¬ Under p) : Fresh order f p := by
  cases p with
  | idle => trivial
  | writing changed => trivial
  | reading whom rows left => exact absurd trivial h
  | sending snapshot left dead => exact absurd trivial h

section Moves
variable [DecidableEq ω]

/-- A publisher goes on without a change of the cells. -/
theorem Told.move (h : Told K order s c) (hcells : f.cells = s.shared.cells)
    (hinbox : K (s.shared.current order) (s.shared.inbox c) → K (s.shared.current order) (f.inbox c))
    (hserves : Serves order s.shared c (s.pc p) →
      K (s.shared.current order) (f.inbox c) ∨ Serves order s.shared c next) :
    Told K order (s.move p (next, f)) c := by
  have hcurrent : f.current order = s.shared.current order := current_congr hcells
  have hkept : K (s.shared.current order) (f.inbox c) → Told K order (s.move p (next, f)) c := by
    intro h
    rw [← hcurrent] at h
    exact .inl h
  have hnew : Serves order s.shared c next → Told K order (s.move p (next, f)) c := by
    intro h
    refine told_served (p := p) ((serves_congr hcells _).mpr ?_)
    rw [Threads.pc_move]
    exact h
  rcases h with h | ⟨q, hq⟩
  · exact hkept (hinbox h)
  · by_cases hqp : q = p
    · rw [hqp] at hq
      exact (hserves hq).elim hkept hnew
    · refine told_served (p := q) ((serves_congr hcells _).mpr ?_)
      rw [Threads.pc_move_of_ne hqp]
      exact hq

theorem fresh_move (h : ∀ q, Fresh order s.shared (s.pc q)) (hcells : f.cells = s.shared.cells)
    (hnext : Fresh order s.shared next) (q : ω) : Fresh order f ((s.move p (next, f)).pc q) := by
  rw [fresh_congr hcells]
  by_cases hqp : q = p
  · rw [hqp, Threads.pc_move]
    exact hnext
  · rw [Threads.pc_move_of_ne hqp]
    exact h q

end Moves

variable [DecidableEq ι] [DecidableEq κ] [DecidableEq ω] {a : Act ι β κ ω}
  {t : Threads ω (Publisher ι β κ) (Published ι β κ)}

/-- What a step does, if it does anything. -/
inductive Takes (order : List ι) (s : Threads ω (Publisher ι β κ) (Published ι β κ)) :
    Act ι β κ ω → Threads ω (Publisher ι β κ) (Published ι β κ) → Prop where
  | stays (a : Act ι β κ ω) : Takes order s a s
  | start {p : ω} : s.pc p = .idle → Takes order s (.start p) (s.move p (.writing false, s.shared))
  | write {p : ω} {i : ι} {b : β} {changed : Bool} : s.pc p = .writing changed →
      Takes order s (.write p i b) (s.move p (.writing true, write s.shared i b))
  | next (p : ω) : Takes order s (.next p) (s.move p (advance order s.shared (s.pc p)))
  | fail {p : ω} {snapshot : List (ι × β)} {d : κ} {left dead : List κ} :
      s.pc p = .sending snapshot (d :: left) dead →
      Takes order s (.fail p) (s.move p (.sending snapshot left (d :: dead), s.shared))
  | join {p : ω} {d : κ} : s.pc p = .idle →
      Takes order s (.join p d) (s.move p (.reading (some d) [] order, add s.shared d))
  | leave (gone : List κ) : Takes order s (.leave gone) ⟨discard s.shared gone, s.pc⟩

theorem takes_step (order : List ι) (s : Threads ω (Publisher ι β κ) (Published ι β κ)) (a : Act ι β κ ω) :
    Takes order s a (step order s a) := by
  cases a with
  | start p =>
    simp only [step]
    split
    · next hp => exact .start hp
    · exact .stays _
  | write p i b =>
    simp only [step]
    split
    · next hp => exact .write hp
    · exact .stays _
  | next p => exact .next p
  | fail p =>
    simp only [step]
    split
    · next hp => exact .fail hp
    · exact .stays _
  | join p d =>
    simp only [step]
    split
    · next hp => exact .join hp
    · exact .stays _
  | leave gone => exact .leave gone

/-- A step keeps each client told, if what is sent is a way to be told and what was sent stays one. -/
theorem Told.step (h : Takes order s a t) (hlast : ∀ x old, K x (old ++ [x]))
    (hkept : ∀ p, a = .next p → K (s.shared.current order) (s.shared.inbox c) →
      K (s.shared.current order) ((advance order s.shared (s.pc p)).2.inbox c))
    (hold : c ∈ s.shared.clients → Told K order s c) (hc : c ∈ t.shared.clients) : Told K order t c := by
  cases h with
  | stays => exact hold hc
  | @start p hp =>
    refine (hold hc).move rfl id fun hserves => ?_
    rw [hp] at hserves
    exact hserves.elim
  | @write p =>
    refine told_served (p := p) ?_
    rw [Threads.pc_move]
    rfl
  | next p =>
    refine (hold (clients_advance hc)).move (cells_advance ..) (hkept p rfl) fun hserves => ?_
    rcases hserves.advance hc with ⟨old, heq⟩ | hserves
    · exact .inl (heq ▸ hlast _ _)
    · exact .inr hserves
  | @fail p snapshot d left dead hp =>
    refine (hold hc).move rfl id fun hserves => .inr ?_
    rw [hp] at hserves
    rcases hserves with ⟨hcurrent, hleft⟩ | hdead
    · rcases List.mem_cons.mp hleft with rfl | hleft
      · exact .inr (List.mem_cons_self ..)
      · exact .inl ⟨hcurrent, hleft⟩
    · exact .inr (List.mem_cons_of_mem _ hdead)
  | @join p d hp =>
    by_cases hd : c = d
    · refine told_served (p := p) ?_
      rw [Threads.pc_move, hd]
      exact ⟨fun e he => (Option.some.inj he).symm, agrees_nil, rfl⟩
    · have hclient : c ∈ s.shared.clients := (List.mem_insert_iff.mp hc).resolve_left hd
      have hinbox : (add s.shared d).inbox c = s.shared.inbox c := Function.update_of_ne hd ..
      refine (hold hclient).move rfl (hinbox ▸ id) fun hserves => ?_
      rw [hp] at hserves
      exact hserves.elim
  | leave gone =>
    rcases hold (mem_discard.mp hc).1 with h | ⟨p, hp⟩
    · exact .inl h
    · exact told_served (p := p) ((serves_congr rfl _).mpr hp)

/-! ### Nothing is lost -/

/-- **Once every publisher is done, each client has been sent the cells as they are.** -/
theorem current_mem_inbox (order : List ι) (cells : ι → β) (acts : List (Act ι β κ ω))
    (hdone : Done (acts.foldl (step order) (begun cells))) :
    ∀ c ∈ (acts.foldl (step order) (begun cells)).shared.clients,
      (acts.foldl (step order) (begun cells)).shared.current order ∈
        (acts.foldl (step order) (begun cells)).shared.inbox c := by
  have htold : ∀ c ∈ (acts.foldl (step order) (begun cells)).shared.clients,
      Told (fun x l => x ∈ l) order (acts.foldl (step order) (begun cells)) c := by
    refine List.foldlRecOn (motive := fun s => ∀ c ∈ s.shared.clients, Told (fun x l => x ∈ l) order s c) acts
      (step order) (fun c hc => ?_) fun s hs a _ c hc => ?_
    · cases hc
    · refine Told.step (takes_step order s a) (fun x old => ?_) (fun p _ h => mem_inbox_advance h _) (hs c) hc
      exact List.mem_append_right _ (List.mem_singleton_self x)
  exact fun c hc => (htold c hc).of_done hdone

/-! ### Nothing is overtaken -/

/-- Some publisher has changed a cell and is still to begin its snapshot, or all that is on the way is what
the cells are, and each client has it last or is still served. -/
def Orderly (order : List ι) (s : Threads ω (Publisher ι β κ) (Published ι β κ)) : Prop :=
  (∃ p, s.pc p = .writing true) ∨ (∀ p, Fresh order s.shared (s.pc p)) ∧
    ∀ c ∈ s.shared.clients, Told (fun x l => l.getLast? = some x) order s c

/-- A publisher that has changed a cell is where it is until it begins its snapshot. -/
theorem Takes.writing (h : Takes order s a t) {q : ω} (hq : s.pc q = .writing true) (ha : a ≠ .next q) :
    t.pc q = .writing true := by
  have hmove : ∀ {p : ω} {next : Publisher ι β κ} {f : Published ι β κ}, q ≠ p →
      (s.move p (next, f)).pc q = .writing true := by
    intro p next f hqp
    rw [Threads.pc_move_of_ne hqp]
    exact hq
  cases h with
  | stays => exact hq
  | start hp =>
    refine hmove fun hqp => ?_
    rw [← hqp, hq] at hp
    cases hp
  | @write p =>
    by_cases hqp : q = p
    · rw [hqp, Threads.pc_move]
    · exact hmove hqp
  | next p =>
    refine hmove fun hqp => ?_
    exact ha (by rw [hqp])
  | fail hp =>
    refine hmove fun hqp => ?_
    rw [← hqp, hq] at hp
    cases hp
  | join hp =>
    refine hmove fun hqp => ?_
    rw [← hqp, hq] at hp
    cases hp
  | leave => exact hq

/-- What is on the way stays what the cells are, unless a step changes one of them. -/
theorem Takes.fresh (h : Takes order s a t) (hs : ∀ p, Fresh order s.shared (s.pc p)) :
    (∃ p, t.pc p = .writing true) ∨ ∀ p, Fresh order t.shared (t.pc p) := by
  cases h with
  | stays => exact .inr hs
  | start => exact .inr (fresh_move hs rfl trivial)
  | @write p => exact .inl ⟨p, Threads.pc_move ..⟩
  | next p => exact .inr (fresh_move hs (cells_advance ..) (hs p).advance)
  | @fail p snapshot d left dead hp =>
    have hfresh := hs p
    rw [hp] at hfresh
    exact .inr (fresh_move hs rfl hfresh)
  | join => exact .inr (fresh_move hs rfl ⟨agrees_nil, rfl⟩)
  | leave gone => exact .inr fun p => (fresh_congr rfl _).mpr (hs p)

theorem Orderly.step (h : Orderly order s) (hturn : InTurn s a) : Orderly order (step order s a) := by
  rcases h with ⟨p, hp⟩ | ⟨hs, htold⟩
  · by_cases ha : a = .next p
    · -- its snapshot is the only one under way, and for every client
      have hunder : ∀ q, Fresh order s.shared (s.pc q) := fun q => fresh_of_not_under (hturn p ha hp q)
      have hstep : Publishing.step order s a = s.move p (.reading none [] order, s.shared) := by
        rw [ha, Publishing.step, hp]
        rfl
      rw [hstep]
      refine .inr ⟨fresh_move hunder rfl ⟨agrees_nil, rfl⟩, fun c _ => told_served (p := p) ?_⟩
      rw [Threads.pc_move]
      exact ⟨fun d hd => (by cases hd), agrees_nil, rfl⟩
    · exact .inl ⟨p, (takes_step order s a).writing hp ha⟩
  · refine ((takes_step order s a).fresh hs).imp id fun hnew => ⟨hnew, fun c hc => ?_⟩
    refine Told.step (takes_step order s a) (fun x old => List.getLast?_concat ..) (fun p _ hlast => ?_)
      (htold c) hc
    rcases (hs p).inbox_advance (c := c) with heq | heq
    · rw [heq]
      exact hlast
    · rw [heq]
      exact List.getLast?_concat ..

/-- **If each snapshot of what was changed begins with no other one under way, once every publisher is done
each client has been sent the cells as they are last.** -/
theorem current_last_inbox (order : List ι) (cells : ι → β) (acts : List (Act ι β κ ω))
    (hturn : Along (step order) InTurn (begun cells) acts)
    (hdone : Done (acts.foldl (step order) (begun cells))) :
    ∀ c ∈ (acts.foldl (step order) (begun cells)).shared.clients,
      ((acts.foldl (step order) (begun cells)).shared.inbox c).getLast? =
        some ((acts.foldl (step order) (begun cells)).shared.current order) := by
  have hbegun : Orderly order (begun cells : Threads ω (Publisher ι β κ) (Published ι β κ)) := by
    refine .inr ⟨fun p => trivial, fun c hc => ?_⟩
    cases hc
  rcases hturn.invariant (I := Orderly order) (fun s a hs ha => hs.step ha) hbegun with ⟨p, hp⟩ | ⟨-, htold⟩
  · rw [hdone p] at hp
    cases hp
  · exact fun c hc => (htold c hc).of_done hdone

/-! ### Threads that are publishers among other things -/

/-- What a thread may do at once, seen as a publisher: one step, or a few. A snapshot of what was changed is
begun under a condition. -/
inductive Goes (order : List ι) (f : Published ι β κ) (Free : Prop) :
    Publisher ι β κ → Publisher ι β κ × Published ι β κ → Prop where
  | stays (p : Publisher ι β κ) : Goes order f Free p (p, f)
  | leaves (p : Publisher ι β κ) (gone : List κ) : Goes order f Free p (p, discard f gone)
  | starts : Goes order f Free .idle (.writing false, f)
  | writes (i : ι) (b : β) (changed : Bool) : Goes order f Free (.writing changed) (.writing true, write f i b)
  | changes (i : ι) (b : β) : Goes order f Free .idle (.writing true, write f i b)
  | begins : Free → Goes order f Free (.writing true) (.reading none [] order, f)
  | reads {i : ι} {left : List ι} : Free → order = i :: left →
      Goes order f Free (.writing true) (.reading none [(i, f.cells i)] left, f)
  | advances {p : Publisher ι β κ} : p ≠ .writing true → Goes order f Free p (advance order f p)
  | fails (snapshot : List (ι × β)) (c : κ) (left dead : List κ) :
      Goes order f Free (.sending snapshot (c :: left) dead) (.sending snapshot left (c :: dead), f)
  | joins (c : κ) : Goes order f Free .idle (.reading (some c) [] order, add f c)

/-- A thread that goes on so takes steps of a publisher, in turn if it does where a snapshot is begun. -/
theorem Goes.steps {Free : Prop} {place : Publisher ι β κ} {next : Publisher ι β κ × Published ι β κ}
    (h : Goes order s.shared Free place next) (hp : s.pc p = place) :
    ∃ acts : List (Act ι β κ ω), s.move p next = acts.foldl (step order) s ∧
      ((Free → ∀ q, ¬ Under (s.pc q)) → Along (step order) InTurn s acts) := by
  have hturn : ∀ {s : Threads ω (Publisher ι β κ) (Published ι β κ)} {a : Act ι β κ ω},
      (∀ q, a = .next q → s.pc q ≠ .writing true) → InTurn s a :=
    fun ha q hq hwriting => absurd hwriting (ha q hq)
  have hone : ∀ a : Act ι β κ ω, step order s a = s.move p next → (∀ q, a = .next q → s.pc q ≠ .writing true) →
      ∃ acts : List (Act ι β κ ω), s.move p next = acts.foldl (step order) s ∧
        ((Free → ∀ q, ¬ Under (s.pc q)) → Along (step order) InTurn s acts) :=
    fun a hstep ha => ⟨[a], hstep.symm, fun _ => ⟨hturn ha, trivial⟩⟩
  have hnext : s.pc p = .writing true → step order s (.next p) = s.move p (.reading none [] order, s.shared) := by
    intro hp
    rw [step, hp]
    rfl
  cases h with
  | stays =>
    refine ⟨[], ?_, fun _ => trivial⟩
    rw [← hp]
    exact s.move_self p
  | leaves _ gone =>
    refine hone (.leave gone) ?_ fun q hq => by cases hq
    rw [← hp, Threads.move, Function.update_eq_self]
    rfl
  | starts => exact hone (.start p) (by simp only [step, hp]) fun q hq => by cases hq
  | writes i b changed => exact hone (.write p i b) (by simp only [step, hp]) fun q hq => by cases hq
  | changes i b =>
    refine ⟨[.start p, .write p i b], ?_, fun _ => ⟨hturn fun q hq => ?_, hturn fun q hq => ?_, trivial⟩⟩
    · simp only [List.foldl_cons, List.foldl_nil, step, hp, Threads.pc_move, Threads.move_move]
      rfl
    · cases hq
    · cases hq
  | begins hfree =>
    refine ⟨[.next p], (hnext hp).symm, fun hunder => ⟨?_, trivial⟩⟩
    exact fun q _ _ => hunder hfree
  | @reads i left hfree horder =>
    refine ⟨[.next p, .next p], ?_, fun hunder => ⟨fun q _ _ => hunder hfree, hturn fun q hq => ?_, trivial⟩⟩
    · rw [List.foldl_cons, List.foldl_cons, List.foldl_nil, hnext hp, step, Threads.pc_move, horder,
        Threads.move_move]
      rfl
    · cases hq
      rw [hnext hp, Threads.pc_move]
      exact fun h => by cases h
  | advances hne =>
    refine hone (.next p) (by rw [step, hp]) fun q hq => ?_
    cases hq
    rw [hp]
    exact hne
  | fails => exact hone (.fail p) (by simp only [step, hp]) fun q hq => by cases hq
  | joins c => exact hone (.join p c) (by simp only [step, hp]) fun q hq => by cases hq

end Publishing

end RaceLink.Library
