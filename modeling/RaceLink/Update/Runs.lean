import RaceLink.Update.Turns

/-! Whole runs of an update, whatever the world answers, and what a run that ended says.

The records are those of the first devices of the list, one for each turn that began. The calls fall into
one stretch for each record: what is said to the node in it is as its record tells, and every board that
is shown in it agrees with the records before it, but for the device at hand, and its last one with that
record too. -/
namespace RaceLink.Update
open Python Library Talk

variable {req : Request} {s t u : State} {new : Calls} {addr : String} {addrs : List String}
  {ds : List DevRes} {d : DevRes} {index : Nat} {answer : Except Raised Unit}

/-! ### The loop -/

def State.cancel (index : Nat) (s : State) : State :=
  {s with results := {s.results with cancelled := true, cancelledAfter := some (index - 1)}}

/-- Turns one after another, until there are no devices left, a turn raises, or a cancel is seen. -/
inductive Loop (req : Request) : Nat → List String → State → Calls → List DevRes → Except Raised Unit → State → Prop where
  | done {index : Nat} {s : State} : Loop req index [] s [] [] (.ok ()) s
  | cancelled {index : Nat} {s : State} {addr : String} {addrs : List String} :
      Loop req index (addr :: addrs) s [⟨.isCancelRequested, true⟩] [] (.ok ()) (s.cancel index)
  | stopped {index : Nat} {s t : State} {addr : String} {addrs : List String} {new : Calls} {d : DevRes}
      {ex : Raised} (turn : Turn req addr s new (.error ex) t d) :
      Loop req index (addr :: addrs) s (⟨.isCancelRequested, false⟩ :: new) [d] (.error ex) t
  | next {index : Nat} {s t u : State} {addr : String} {addrs : List String} {new more : Calls} {d : DevRes}
      {ds : List DevRes} {answer : Except Raised Unit} (turn : Turn req addr s new (.ok ()) t d)
      (loop : Loop req (index + 1) addrs t more ds answer u) :
      Loop req index (addr :: addrs) s (⟨.isCancelRequested, false⟩ :: (new ++ more)) (d :: ds) answer u

theorem says_deviceLoop (o : World) (req : Request) (hostWifiInitial : Bool) (index : Nat) (addrs : List String) :
    Says (deviceLoop o req hostWifiInitial index addrs) fun s new answer t =>
      ∃ ds, Loop req index addrs s new ds answer t := by
  induction addrs generalizing index with
  | nil =>
    refine (says_pure ()).mono fun s new answer t h => ?_
    obtain ⟨rfl, rfl, rfl⟩ := h
    exact ⟨[], .done⟩
  | cons addr addrs ih =>
    have hturn := (says_updateDevice o req hostWifiInitial addr index).bind fun _ => ih (index + 1)
    refine (says_ask_bind (o := o) (c := .isCancelRequested) (R := fun cancel s more answer t =>
      ∃ ds, Loop req index (addr :: addrs) s (⟨.isCancelRequested, cancel⟩ :: more) ds answer t) fun cancel => ?_).mono ?_
    · cases cancel with
      | true =>
        refine (says_modify (State.cancel index)).mono fun s new answer t h => ?_
        obtain ⟨rfl, rfl, rfl⟩ := h
        exact ⟨[], .cancelled⟩
      | false =>
        refine hturn.mono fun s new answer t h => ?_
        rcases h with ⟨ex, rfl, d, h⟩ | ⟨_, first, mid, more, rfl, ⟨d, h⟩, ds, hloop⟩
        · exact ⟨[d], .stopped h⟩
        · exact ⟨d :: ds, .next h hloop⟩
    · intro s new answer t h
      obtain ⟨cancel, more, rfl, h⟩ := h
      exact h

/-! ### Records -/

/-- The records of a loop are those of the first devices, in order. -/
theorem Loop.devices (h : Loop req index addrs s new ds answer t) :
    t.results.devices = s.results.devices ++ ds ∧ ds.map DevRes.addr = addrs.take ds.length := by
  induction h with
  | done => simp
  | cancelled => simp [State.cancel]
  | stopped turn => simp [turn.devices, turn.addr_eq]
  | next turn _ ih => simp [ih.1, ih.2, turn.devices, turn.addr_eq]

/-- Each record either went well, or has an error. -/
theorem Loop.records (h : Loop req index addrs s new ds answer t) :
    ∀ d ∈ ds, (d.ok = true ↔ d.error = none) ∧ d.expectedMac = String.ofList (expectedMacHex d.addr) := by
  have hturn : ∀ {addr s new answer t d}, Turn req addr s new answer t d →
      (d.ok = true ↔ d.error = none) ∧ d.expectedMac = String.ofList (expectedMacHex d.addr) := by
    intro addr s new answer t d turn
    rw [turn.addr_eq]
    exact ⟨turn.ok_iff, turn.expectedMac_eq⟩
  induction h with
  | done => simp
  | cancelled => simp
  | stopped turn => simpa using hturn turn
  | next turn _ ih => exact List.forall_mem_cons.mpr ⟨hturn turn, ih⟩

/-- The errors are those of the records. -/
theorem Loop.errors (h : Loop req index addrs s new ds answer t) :
    t.results.errors = s.results.errors ++ (ds.filterMap DevRes.error).map Note.said := by
  induction h with
  | done => simp
  | cancelled => simp [State.cancel]
  | @stopped _ _ _ _ _ _ d _ turn =>
    rw [turn.errors]
    cases herror : d.error <;> simp [herror]
  | @next _ _ _ _ _ _ _ _ d ds _ turn _ ih =>
    rw [ih, turn.errors]
    cases herror : d.error <;> simp [herror]

/-- What is said to the nodes falls into stretches, one for each record. -/
theorem Loop.talk (h : Loop req index addrs s new ds answer t) :
    ∃ stretches, Update.talk new = stretches.flatten ∧ List.Forall₂ (Device req) ds stretches := by
  induction h with
  | done => exact ⟨[], rfl, .nil⟩
  | cancelled => exact ⟨[], rfl, .nil⟩
  | @stopped _ _ _ _ _ new d _ turn => exact ⟨[Update.talk new], by simp [Update.talk, Call.toNode], .cons turn.talk .nil⟩
  | @next _ _ _ _ _ _ new more _ _ _ turn _ ih =>
    obtain ⟨stretches, htalk, hdevices⟩ := ih
    refine ⟨Update.talk new :: stretches, ?_, .cons turn.talk hdevices⟩
    rw [List.flatten_cons, ← htalk, ← talk_append]
    simp [Update.talk, Call.toNode]

/-- How a loop ends: all turns were taken, one of them raised, or a cancel was seen. -/
inductive Ending (req : Request) (index : Nat) (addrs : List String) (ds : List DevRes) (s t : State) :
    Except Raised Unit → Prop where
  | done : ds.length = addrs.length → rest t = rest s → Ending req index addrs ds s t (.ok ())
  | cancelled : ds.length < addrs.length → rest t = rest (s.cancel (index + ds.length)) →
      Ending req index addrs ds s t (.ok ())
  | stopped {ex : Raised} : req.stopOnError = true → (∃ d, ds.getLast? = some d ∧ d.ok = false) →
      rest t = rest s → Ending req index addrs ds s t (.error ex)

theorem Loop.ending (h : Loop req index addrs s new ds answer t) : Ending req index addrs ds s t answer := by
  induction h with
  | done => exact .done rfl rfl
  | cancelled => exact .cancelled (Nat.succ_pos _) rfl
  | @stopped _ _ _ _ _ _ d ex turn =>
    have hstop := turn.answered
    rw [eq_comm, Bool.not_eq_eq_eq_not] at hstop
    obtain ⟨hstop, hok⟩ := Bool.and_eq_true_iff.mp (hstop : _)
    exact .stopped hstop ⟨d, rfl, by simpa using hok⟩ turn.rest_eq
  | @next index s t u addr addrs new more d ds answer turn _ ih =>
    cases ih with
    | done hlength hrest => exact .done (congrArg Nat.succ hlength) (hrest.trans turn.rest_eq)
    | cancelled hlength hrest =>
      refine .cancelled (Nat.succ_lt_succ hlength) ?_
      have hcancel := congrArg (State.cancel (index + (d :: ds).length)) turn.rest_eq
      rw [hrest, Nat.add_assoc, Nat.add_comm 1]
      exact hcancel
    | stopped hstop hlast hrest =>
      refine .stopped hstop ?_ (hrest.trans turn.rest_eq)
      obtain ⟨d', hd', hok⟩ := hlast
      exact ⟨d', by rw [List.getLast?_cons, hd']; rfl, hok⟩

/-- Only the last device of a run that stops on errors has failed. -/
theorem Loop.stops (h : Loop req index addrs s new ds answer t) (hstop : req.stopOnError = true) :
    ∀ d ∈ ds.dropLast, d.ok = true := by
  induction h with
  | done => simp
  | cancelled => simp
  | stopped turn => simp
  | @next _ _ _ _ _ _ _ _ d ds _ turn _ ih =>
    have hok : d.ok = true := by
      have hanswer := turn.answered
      rw [hstop] at hanswer
      simpa [Except.toBool] using hanswer
    cases ds with
    | nil => simp
    | cons d' ds => exact List.forall_mem_cons.mpr ⟨hok, ih⟩

/-- No device has failed in a run that is to stop on errors and did not. -/
theorem Loop.passed (h : Loop req index addrs s new ds answer t) (hstop : req.stopOnError = true)
    (hanswer : answer = .ok ()) : ∀ d ∈ ds, d.ok = true := by
  induction h with
  | done => simp
  | cancelled => simp
  | stopped turn => cases hanswer
  | @next _ _ _ _ _ _ _ _ d ds _ turn _ ih =>
    have hok := turn.answered
    rw [hstop] at hok
    exact List.forall_mem_cons.mpr ⟨by simpa [Except.toBool] using hok, ih hanswer⟩

/-! ### Rows -/

def rowOf {α : Type} (addr : String) (rows : List (String × α)) : Option α :=
  (findKey Prod.fst addr rows).map Prod.snd

/-- The last record of an address. -/
def recordOf (addr : String) (ds : List DevRes) : Option DevRes :=
  ds.reverse.find? fun d => decide (d.addr = addr)

/-- The row of an address agrees with its last record; without one it is queued. -/
def Agrees (addr : String) (ds : List DevRes) (rows : Rows) : Prop :=
  ∃ row, rowOf addr rows = some row ∧ match recordOf addr ds with
    | none => row = .queued
    | some d => SettledRow d row

theorem rowOf_setRow {α : Type} (addr addr' : String) (x : α) (rows : List (String × α)) :
    rowOf addr (setRow addr' x rows) = if addr' = addr then some x else rowOf addr rows := by
  unfold rowOf setRow
  split
  · next h =>
    subst h
    have hput : findKey Prod.fst addr' (putKey Prod.fst (addr', x) rows) = some (addr', x) :=
      findKey_putKey (addr', x) rows
    rw [hput]
    rfl
  · next h => rw [findKey_putKey_of_ne h]

theorem recordOf_append (addr : String) (ds : List DevRes) (d : DevRes) :
    recordOf addr (ds ++ [d]) = if d.addr = addr then some d else recordOf addr ds := by
  rw [recordOf, List.reverse_append, List.reverse_singleton, List.singleton_append, List.find?_cons]
  split
  · next h => rw [if_pos (of_decide_eq_true h)]
  · next h => rw [if_neg (of_decide_eq_false h), recordOf]

/-- A board of the turn of the device of `cur`, when the records `done` were there. -/
structure InTurn (macs : List String) (done : List DevRes) (cur : String) (b : Board) : Prop where
  others : ∀ addr ∈ macs, addr ≠ cur → Agrees addr done b.deviceState
  current : ∃ row, row ≠ .queued ∧ rowOf cur b.deviceState = some row

/-- A board on which every row agrees with the records. -/
def AllAgree (macs : List String) (ds : List DevRes) (b : Board) : Prop := ∀ addr ∈ macs, Agrees addr ds b.deviceState

theorem agrees_start (macs : List String) :
    ∀ addr ∈ macs, Agrees addr [] (macs.foldl (fun rows addr => setRow addr .queued rows) []) := by
  have hrows : ∀ (macs : List String) (rows : Rows) (addr : String),
      addr ∈ macs ∨ rowOf addr rows = some .queued →
      rowOf addr (macs.foldl (fun rows addr => setRow addr .queued rows) rows) = some .queued := by
    intro macs
    induction macs with
    | nil =>
      intro rows addr h
      exact h.resolve_left List.not_mem_nil
    | cons mac macs ih =>
      intro rows addr h
      refine ih _ addr ?_
      rw [rowOf_setRow]
      by_cases hmac : mac = addr
      · exact .inr (if_pos hmac)
      · rw [if_neg hmac]
        refine h.imp_left fun hmem => ?_
        exact (List.mem_cons.mp hmem).resolve_left fun h => hmac h.symm
  intro addr hmem
  exact ⟨.queued, hrows macs [] addr (.inl hmem), rfl⟩

theorem Turn.inTurn (turn : Turn req addr s new answer t d) {done : List DevRes}
    (hs : AllAgree req.macs done (board req s)) : ∀ b ∈ boards new, InTurn req.macs done d.addr b := by
  intro b hb
  obtain ⟨row, messages, hrow, -, rfl⟩ := turn.live b hb
  rw [turn.addr_eq]
  refine ⟨fun other hmem hne => ?_, row, hrow, ?_⟩
  · obtain ⟨row', hrow', hagrees⟩ := hs other hmem
    refine ⟨row', ?_, hagrees⟩
    show rowOf other (setRow addr row s.deviceState) = some row'
    rw [rowOf_setRow, if_neg hne.symm]
    exact hrow'
  · show rowOf addr (setRow addr row s.deviceState) = some row
    rw [rowOf_setRow, if_pos rfl]

theorem Turn.agrees (turn : Turn req addr s new answer t d) {done : List DevRes}
    (hs : AllAgree req.macs done (board req s)) : AllAgree req.macs (done ++ [d]) (board req t) := by
  obtain ⟨row, hsettled, hstate⟩ := turn.row
  intro other hmem
  unfold Agrees
  show ∃ row, rowOf other t.deviceState = some row ∧ _
  rw [hstate, rowOf_setRow, recordOf_append, turn.addr_eq]
  by_cases hother : addr = other
  · rw [if_pos hother, if_pos hother]
    exact ⟨row, rfl, hsettled⟩
  · rw [if_neg hother, if_neg hother]
    exact hs other hmem

/-- The calls of the turn of `d`, when the records `done` were there. -/
structure Stretch (req : Request) (done : List DevRes) (d : DevRes) (calls : Calls) : Prop where
  talk : Device req d (talk calls)
  shown : ∀ b ∈ boards calls, InTurn req.macs done d.addr b
  last : ∃ b, (boards calls).getLast? = some b ∧ AllAgree req.macs (done ++ [d]) b

/-- The calls of turn after turn, each when the records of those before it were there. -/
inductive Stretches (req : Request) : List DevRes → List DevRes → List Calls → Prop where
  | nil {done : List DevRes} : Stretches req done [] []
  | cons {done ds : List DevRes} {d : DevRes} {calls : Calls} {more : List Calls} (stretch : Stretch req done d calls)
      (stretches : Stretches req (done ++ [d]) ds more) : Stretches req done (d :: ds) (calls :: more)

theorem Turn.stretch (turn : Turn req addr s new answer t d) {done : List DevRes}
    (hs : AllAgree req.macs done (board req s)) : Stretch req done d (⟨.isCancelRequested, false⟩ :: new) where
  talk := turn.talk
  shown := turn.inTurn hs
  last := ⟨board req t, turn.last, turn.agrees hs⟩

/-- The last board that was shown agrees with all records, if the last before the turns agrees with those before. -/
theorem Stretches.last {done : List DevRes} {calls : List Calls} (h : Stretches req done ds calls) {before : List Board}
    (hbefore : ∀ b ∈ before.getLast?, AllAgree req.macs done b) :
    ∀ b ∈ (before ++ boards calls.flatten).getLast?, AllAgree req.macs (done ++ ds) b := by
  induction h generalizing before with
  | nil => simpa using hbefore
  | @cons done ds d calls more stretch _ ih =>
    obtain ⟨b', hlast, hagree⟩ := stretch.last
    have hturn : ∀ b ∈ (before ++ boards calls).getLast?, AllAgree req.macs (done ++ [d]) b := by
      intro b hb
      rw [List.getLast?_append, hlast] at hb
      cases hb
      exact hagree
    have hrest := ih hturn
    rwa [List.append_assoc, List.append_assoc, List.singleton_append, ← boards_append, ← List.flatten_cons] at hrest

/-- The calls of a loop fall into one stretch for each record, and a cancel that was seen. -/
theorem Loop.stretches (h : Loop req index addrs s new ds answer t) {done : List DevRes}
    (hs : AllAgree req.macs done (board req s)) : ∃ calls closing, new = calls.flatten ++ closing ∧
      Update.talk closing = [] ∧ boards closing = [] ∧ Stretches req done ds calls := by
  induction h generalizing done with
  | done => exact ⟨[], [], rfl, rfl, rfl, .nil⟩
  | cancelled => exact ⟨[], [⟨.isCancelRequested, true⟩], rfl, rfl, rfl, .nil⟩
  | stopped turn => exact ⟨[_], [], by simp, rfl, rfl, .cons (turn.stretch hs) .nil⟩
  | next turn _ ih =>
    obtain ⟨calls, closing, rfl, htalk, hboards, hcalls⟩ := ih (turn.agrees hs)
    exact ⟨_ :: calls, closing, by simp, htalk, hboards, .cons (turn.stretch hs) hcalls⟩

/-! ### The end of a run -/

/-- The note of a step that raised. -/
def noteOf (note : String → Note) : Except Raised Unit → List Note
  | .ok _ => []
  | .error ex => [note ex.message]

/-- The notes of leaving the AP and switching the radio off. -/
def restoreNotes (ssid : String) (left switched : Except Raised Unit) : List Note :=
  noteOf (.cleanupFailed ssid) left ++ noteOf .restoreFailed switched

/-- What restoring the Wi-Fi of the host says: the radio is switched off only if it was off before, and
is on now. -/
inductive Restores (hostWifiRestore hostWifiInitial : Bool) (ssid : String) : Calls → List Note → Option Bool → Prop where
  | untouched : (hostWifiRestore && !hostWifiInitial) = false →
      Restores hostWifiRestore hostWifiInitial ssid [] [] none
  | off : (hostWifiRestore && !hostWifiInitial) = true →
      Restores hostWifiRestore hostWifiInitial ssid [⟨.radioEnabled, false⟩] [] none
  | switched {left : Except Raised Unit} {answer : Except Raised Unit} :
      (hostWifiRestore && !hostWifiInitial) = true →
      Restores hostWifiRestore hostWifiInitial ssid
        [⟨.radioEnabled, true⟩, ⟨.disconnectAp ssid, left⟩, ⟨.setRadio false, answer⟩]
        (restoreNotes ssid left answer) (some answer.toBool)

/-- The results after the Wi-Fi of the host was restored, or not. -/
def Results.restored (notes : List Note) (r : Results) : Option Bool → Results
  | none => r
  | some true => {r with
      errors := r.errors ++ notes, hostWifi := {r.hostWifi with enabled := false, restored := true}}
  | some false => {r with errors := r.errors ++ notes, ok := false}

/-- A call whose answer is raised if it is an exception. -/
theorem says_raising_disconnectAp (o : World) (ssid : String) :
    Says (raising (ask o (.disconnectAp ssid))) fun s new answer t => new = [⟨.disconnectAp ssid, answer⟩] ∧ t = s :=
  (says_ask_bind (o := o) (c := .disconnectAp ssid) fun a => says_ofExcept a).mono fun s new answer t h => by
    obtain ⟨a, rest, rfl, rfl, rfl, rfl⟩ := h
    exact ⟨rfl, rfl⟩

theorem says_raising_setRadio (o : World) (enabled : Bool) :
    Says (raising (ask o (.setRadio enabled))) fun s new answer t => new = [⟨.setRadio enabled, answer⟩] ∧ t = s :=
  (says_ask_bind (o := o) (c := .setRadio enabled) fun a => says_ofExcept a).mono fun s new answer t h => by
    obtain ⟨a, rest, rfl, rfl, rfl, rfl⟩ := h
    exact ⟨rfl, rfl⟩

theorem says_modifyResults (f : Results → Results) :
    Says (modifyResults f) fun s new answer t => new = [] ∧ answer = .ok () ∧ t = {s with results := f s.results} :=
  says_modify _

theorem says_leaveAp (o : World) (ssid : String) :
    Says (leaveAp o ssid) fun s new answer t => ∃ left, new = [⟨.disconnectAp ssid, left⟩] ∧ answer = .ok () ∧
      t = {s with results := {s.results with errors := s.results.errors ++ noteOf (.cleanupFailed ssid) left}} := by
  refine ((says_raising_disconnectAp o ssid).orExcept fun ex => says_modifyResults fun r =>
    {r with errors := r.errors ++ [.cleanupFailed ssid ex.message]}).mono fun s new answer t h => ?_
  rcases h with ⟨a, rfl, rfl, rfl⟩ | ⟨ex, first, mid, more, rfl, ⟨rfl, rfl⟩, rfl, rfl, rfl⟩
  · exact ⟨.ok a, rfl, rfl, by simp [noteOf]⟩
  · exact ⟨.error ex, rfl, rfl, rfl⟩

theorem says_switchOff (o : World) :
    Says (Action.orExcept (switchOff o) restoreFailed) fun s new answer t => answer = .ok () ∧
      ∃ left switched, new = [⟨.disconnectAp s.lastConnectedSsid, left⟩, ⟨.setRadio false, switched⟩] ∧
        t = {s with
          results := s.results.restored (restoreNotes s.lastConnectedSsid left switched) (some switched.toBool)} := by
  have hoff : Says (switchOff o) fun s new answer t => ∃ left switched,
      new = [⟨.disconnectAp s.lastConnectedSsid, left⟩, ⟨.setRadio false, switched⟩] ∧ answer = switched ∧
      t = {s with results := {s.results with
        errors := s.results.errors ++ noteOf (.cleanupFailed s.lastConnectedSsid) left
        hostWifi := match switched with
          | .ok _ => {s.results.hostWifi with enabled := false, restored := true}
          | .error _ => s.results.hostWifi}} := by
    refine (says_gets_bind fun ssid => (says_leaveAp o ssid).bind fun _ => (says_raising_setRadio o false).bind
      fun _ => says_modifyResults _).mono fun s new answer t h => ?_
    rcases h with ⟨ex, -, left, -, h, -⟩ | ⟨_, first, mid, more, rfl, ⟨left, rfl, -, rfl⟩, h⟩
    · cases h
    · rcases h with ⟨ex, rfl, rfl, rfl⟩ | ⟨_, first, mid', more', rfl, ⟨rfl, rfl⟩, rfl, rfl, rfl⟩
      · exact ⟨left, .error ex, rfl, rfl, rfl⟩
      · exact ⟨left, .ok (), rfl, rfl, rfl⟩
  refine (hoff.orExcept fun ex => says_modifyResults _).mono fun s new answer t h => ?_
  rcases h with ⟨a, rfl, left, switched, rfl, rfl, rfl⟩ |
    ⟨ex, first, mid, more, rfl, ⟨left, switched, rfl, rfl, rfl⟩, rfl, rfl, rfl⟩
  · exact ⟨rfl, left, .ok a, rfl, by simp [restoreNotes, noteOf, Results.restored, Except.toBool]⟩
  · exact ⟨rfl, left, .error ex, rfl, by simp [restoreNotes, noteOf, Results.restored, Except.toBool]⟩

theorem says_restoreHostWifi (o : World) (hostWifiRestore hostWifiInitial : Bool) :
    Says (restoreHostWifi o hostWifiRestore hostWifiInitial) fun s new answer t => answer = .ok () ∧
      ∃ notes switched, Restores hostWifiRestore hostWifiInitial s.lastConnectedSsid new notes switched ∧
        t = {s with results := s.results.restored notes switched} := by
  unfold restoreHostWifi
  split
  · next hrestore =>
    refine (says_ask_bind (o := o) (c := .radioEnabled) (R := fun on s more answer t => answer = .ok () ∧
      ∃ notes switched, Restores hostWifiRestore hostWifiInitial s.lastConnectedSsid (⟨.radioEnabled, on⟩ :: more)
        notes switched ∧ t = {s with results := s.results.restored notes switched}) fun on => ?_).mono ?_
    · cases on with
      | true =>
        refine (says_switchOff o).mono fun s new answer t h => ?_
        obtain ⟨rfl, left, switched, rfl, rfl⟩ := h
        exact ⟨rfl, _, _, .switched hrestore, rfl⟩
      | false =>
        refine (says_pure ()).mono fun s new answer t h => ?_
        obtain ⟨rfl, rfl, rfl⟩ := h
        exact ⟨rfl, _, _, .off hrestore, rfl⟩
    · intro s new answer t h
      obtain ⟨on, more, rfl, h⟩ := h
      exact h
  · next hrestore =>
    refine (says_pure ()).mono fun s new answer t h => ?_
    obtain ⟨rfl, rfl, rfl⟩ := h
    exact ⟨rfl, [], none, .untouched (Bool.eq_false_iff.mpr hrestore), rfl⟩

/-! ### Whole runs -/

/-- The `try` of a run: the radio is made ready, which may fail, and the loop is gone through. -/
inductive Body (req : Request) (s : State) : Calls → List DevRes → Except Raised Unit → State → Prop where
  | unready {new : Calls} {ex : Raised} {t : State} : Steady req (board req s) s new t → talk new = [] →
      Body req s new [] (.error ex) t
  | ready {new more : Calls} {mid t : State} {ds : List DevRes} {answer : Except Raised Unit} :
      Steady req (board req s) s new mid → talk new = [] → Loop req 1 req.macs mid more ds answer t →
      Body req s (new ++ more) ds answer t

/-- The state the loop starts from. -/
def Request.begin (req : Request) (hostWifiInitial : Bool) : State :=
  State.accept req (State.start hostWifiInitial)

def State.abort (s : State) : Except Raised Unit → State
  | .ok _ => s
  | .error _ => {s with results := {s.results with ok := false}}

def State.summarized (req : Request) (s : State) : State :=
  {s with results := {s.results with summary := summaryOf req.macs.length s.results}}

/-- A run with something to send. -/
structure Ran (req : Request) (hostWifiInitial : Bool) (ds : List DevRes) (new : Calls) (t : State) : Prop where
  run : ∃ body ending answer u notes switched,
    new = ⟨.radioEnabled, hostWifiInitial⟩ :: (body ++ ending) ∧
    Body req (req.begin hostWifiInitial) body ds answer u ∧
    Restores req.hostWifiRestore hostWifiInitial u.lastConnectedSsid ending notes switched ∧
    t = State.summarized req
      {u.abort answer with results := (u.abort answer).results.restored notes switched}

theorem says_body (o : World) (req : Request) (hostWifiInitial : Bool) :
    Says (do
        let shown ← gets (board req)
        let base : Meta := {stage := .hostWifiOn, message := "", addr := none, index := some 0, board := some shown}
        let _ ← ensureWifiReady o req.wifi req.hostWifiEnable hostWifiInitial base
        deviceLoop o req hostWifiInitial 1 req.macs) fun s new answer t => ∃ ds, Body req s new ds answer t := by
  have hloop := says_deviceLoop o req hostWifiInitial 1 req.macs
  refine (says_gets_bind (R := fun shown s new answer t => board req s = shown → ∃ ds, Body req s new ds answer t)
    fun shown => ?_).mono fun s new answer t h => h rfl
  have hready : Says (ensureWifiReady o req.wifi req.hostWifiEnable hostWifiInitial
      {stage := .hostWifiOn, message := "", addr := none, index := some 0, board := some shown})
      (InPhase req shown .silent) :=
    silent_ensureWifiReady o req shown hostWifiInitial fun b hb => (Option.some.inj hb).symm
  refine (hready.bind fun _ => hloop).mono fun s new answer t h hshown => ?_
  subst hshown
  rcases h with ⟨ex, rfl, h⟩ | ⟨_, first, mid, more, rfl, h, ds, hloop⟩
  · exact ⟨[], .unready (h rfl).1 (h rfl).2⟩
  · exact ⟨ds, .ready (h rfl).1 (h rfl).2 hloop⟩

theorem says_accepted (o : World) (req : Request) (hostWifiInitial : Bool) :
    Says (do
        Talk.modify (State.accept req)
        Action.andFinally
          (Action.orExcept
            (do
              let shown ← gets (board req)
              let base : Meta := {stage := .hostWifiOn, message := "", addr := none, index := some 0, board := some shown}
              let _ ← ensureWifiReady o req.wifi req.hostWifiEnable hostWifiInitial base
              deviceLoop o req hostWifiInitial 1 req.macs)
            fun _ => modifyResults fun r => {r with ok := false})
          (restoreHostWifi o req.hostWifiRestore hostWifiInitial)
        modifyResults fun r => {r with summary := summaryOf req.macs.length r}) fun s new answer t => answer = .ok () ∧
      ∃ body ending ds result u notes switched, new = body ++ ending ∧
        Body req (State.accept req s) body ds result u ∧
        Restores req.hostWifiRestore hostWifiInitial u.lastConnectedSsid ending notes switched ∧
        t = State.summarized req {u.abort result with results := (u.abort result).results.restored notes switched} := by
  have htry := (says_body o req hostWifiInitial).orExcept fun _ =>
    says_modifyResults fun r => {r with ok := false}
  have hnever : ∀ (s : State) (new : Calls) (ex : Raised) (t : State), ¬ ((Except.error ex : Except Raised Unit) = .ok () ∧
      ∃ notes switched, Restores req.hostWifiRestore hostWifiInitial s.lastConnectedSsid new notes switched ∧
        t = {s with results := s.results.restored notes switched}) := by
    intro s new ex t h
    cases h.1
  have hwhole := htry.andFinally (says_restoreHostWifi o req.hostWifiRestore hostWifiInitial) hnever
  refine (says_modify_bind (hwhole.bind fun _ => says_modifyResults _)).mono fun s new answer t h => ?_
  rcases h with ⟨ex, rfl, first, mid, ending, rfl, htry, -⟩ | ⟨_, first, mid, more, rfl, h, rfl, rfl, rfl⟩
  · rcases htry with ⟨a, h, -⟩ | ⟨ex', body, u, more, -, -, -, h, -⟩
    · cases h
    · cases h
  · obtain ⟨tried, u, ending, rfl, htry, -, notes, switched, hrestores, rfl⟩ := h
    rw [List.append_nil]
    rcases htry with ⟨a, -, ds, hbody⟩ | ⟨ex, body, u', more, rfl, ⟨ds, hbody⟩, rfl, -, rfl⟩
    · exact ⟨rfl, tried, ending, ds, .ok a, u, notes, switched, rfl, hbody, hrestores, rfl⟩
    · rw [List.append_nil]
      exact ⟨rfl, body, ending, ds, .error ex, u', notes, switched, rfl, hbody, hrestores, rfl⟩

/-- A run asks whether the radio is on, and then has nothing to do, or goes through with it. -/
theorem says_runFirmwareUpdate (o : World) (req : Request) :
    Says (runFirmwareUpdate o req) fun _ new answer t => ∃ hostWifiInitial,
      (¬ req.HasOps ∧ answer.toBool = false ∧ new = [⟨.radioEnabled, hostWifiInitial⟩] ∧
        t = State.start hostWifiInitial) ∨
      (req.HasOps ∧ answer = .ok () ∧ ∃ ds, Ran req hostWifiInitial ds new t) := by
  unfold runFirmwareUpdate
  by_cases hops : req.HasOps
  · rw [decide_eq_true hops, orRaise_true]
    refine (says_ask_bind (o := o) (c := .radioEnabled) fun initial => says_modify_bind
      (g := fun _ => State.start initial) ((says_pure ()).bind fun _ => says_accepted o req initial)).mono ?_
    intro s new answer t h
    obtain ⟨initial, more, rfl, ⟨ex, -, -, h, -⟩ | ⟨_, first, mid, rest, rfl, ⟨rfl, -, rfl⟩, h⟩⟩ := h
    · cases h
    · obtain ⟨rfl, body, ending, ds, result, u, notes, switched, rfl, hbody, hrestores, rfl⟩ := h
      exact ⟨initial, .inr ⟨hops, rfl, ds, ⟨body, ending, result, u, notes, switched, rfl, hbody, hrestores, rfl⟩⟩⟩
  · rw [decide_eq_false hops, orRaise_false]
    refine (says_ask_bind (o := o) (c := .radioEnabled) fun initial => says_modify_bind
      (g := fun _ => State.start initial) ((says_raise _).bind fun _ => says_accepted o req initial)).mono ?_
    intro s new answer t h
    obtain ⟨initial, more, rfl, ⟨ex, rfl, rfl, -, rfl⟩ | ⟨_, first, mid, rest, rfl, ⟨-, h, -⟩, -⟩⟩ := h
    · exact ⟨initial, .inl ⟨hops, rfl, rfl, rfl⟩⟩
    · cases h

end RaceLink.Update
