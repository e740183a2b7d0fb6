import RaceLink.Update.Runs

/-! What an update guarantees, whatever the world answers. -/
namespace RaceLink.Update
open Python Library Talk

variable {req : Request} {s t : State} {new : Calls} {ds : List DevRes} {answer : Except Raised Unit}
  {hostWifiInitial : Bool}

/-! ### The results after the radio was seen to -/

section Restored
variable (notes : List Note) (r : Results) (switched : Option Bool)

@[simp] theorem restored_devices : (r.restored notes switched).devices = r.devices := by
  cases switched with
  | none => rfl
  | some done => cases done <;> rfl

@[simp] theorem restored_cancelled : (r.restored notes switched).cancelled = r.cancelled := by
  cases switched with
  | none => rfl
  | some done => cases done <;> rfl

@[simp] theorem restored_cancelledAfter : (r.restored notes switched).cancelledAfter = r.cancelledAfter := by
  cases switched with
  | none => rfl
  | some done => cases done <;> rfl

theorem restored_ok : (r.restored notes switched).ok = (r.ok && switched != some false) := by
  cases switched with
  | none => simp [Results.restored]
  | some done => cases done <;> simp [Results.restored]

end Restored

@[simp] theorem abort_devices (s : State) (answer : Except Raised Unit) :
    (s.abort answer).results.devices = s.results.devices := by
  cases answer <;> rfl

@[simp] theorem abort_errors (s : State) (answer : Except Raised Unit) :
    (s.abort answer).results.errors = s.results.errors := by
  cases answer <;> rfl

@[simp] theorem abort_cancelled (s : State) (answer : Except Raised Unit) :
    (s.abort answer).results.cancelled = s.results.cancelled := by
  cases answer <;> rfl

@[simp] theorem abort_cancelledAfter (s : State) (answer : Except Raised Unit) :
    (s.abort answer).results.cancelledAfter = s.results.cancelledAfter := by
  cases answer <;> rfl

/-- A note about the Wi-Fi of the host. -/
def Note.ofHost : Note → Bool
  | .said _ => false
  | _ => true

/-! ### The `try` of a run -/

theorem devices_nil_of_core (h : core t = core s) (hs : s.results.devices = []) : t.results.devices = [] := by
  have hdevices := congrArg (fun s : State => s.results.devices) h
  simp only [core, hs] at hdevices
  obtain hnil | ⟨front, d, hd⟩ := List.eq_nil_or_concat' t.results.devices
  · exact hnil
  · rw [hd, modifyLast_append] at hdevices
    exact absurd hdevices (by simp [modifyLast])

/-- What a `try` that has begun goes on from: no device, no error, every row queued. -/
structure Begun (req : Request) (hostWifiInitial : Bool) (mid : State) : Prop where
  devices : mid.results.devices = []
  errors : mid.results.errors = []
  rest_eq : rest mid = rest (req.begin hostWifiInitial)
  board_eq : board req mid = board req (req.begin hostWifiInitial)

theorem Steady.begun (h : Steady req (board req (req.begin hostWifiInitial)) (req.begin hostWifiInitial) new t) :
    Begun req hostWifiInitial t where
  devices := devices_nil_of_core h.core_eq rfl
  errors := (rows_of_core h.core_eq).2.2
  rest_eq := rest_of_core h.core_eq
  board_eq := board_eq_of_core h.core_eq

theorem agrees_begin (req : Request) (hostWifiInitial : Bool) :
    AllAgree req.macs [] (board req (req.begin hostWifiInitial)) := agrees_start req.macs

section Body
variable (h : Body req (req.begin hostWifiInitial) new ds answer t)
include h

theorem Body.devices : t.results.devices = ds ∧ ds.map DevRes.addr = req.macs.take ds.length := by
  cases h with
  | unready hsteady _ => exact ⟨hsteady.begun.devices, rfl⟩
  | ready hsteady _ loop => simpa [hsteady.begun.devices] using loop.devices

theorem Body.records :
    ∀ d ∈ ds, (d.ok = true ↔ d.error = none) ∧ d.expectedMac = String.ofList (expectedMacHex d.addr) := by
  cases h with
  | unready _ _ => simp
  | ready _ _ loop => exact loop.records

theorem Body.errors : t.results.errors = (ds.filterMap DevRes.error).map Note.said := by
  cases h with
  | unready hsteady _ => exact hsteady.begun.errors
  | ready hsteady _ loop => simpa [hsteady.begun.errors] using loop.errors

theorem Body.talk :
    ∃ stretches, Update.talk new = stretches.flatten ∧ List.Forall₂ (Device req) ds stretches := by
  cases h with
  | unready _ hsilent => exact ⟨[], hsilent, .nil⟩
  | ready _ hsilent loop => simpa [hsilent] using loop.talk

/-- The run ended as its loop did, or did not get to it. -/
theorem Body.ending : (ds = [] ∧ rest t = rest (req.begin hostWifiInitial) ∧ ∃ ex, answer = .error ex) ∨
    Ending req 1 req.macs ds (req.begin hostWifiInitial) t answer := by
  cases h with
  | unready hsteady _ => exact .inl ⟨rfl, hsteady.begun.rest_eq, _, rfl⟩
  | ready hsteady _ loop =>
    refine .inr ?_
    have hrest := hsteady.begun.rest_eq
    cases loop.ending with
    | done hlength h => exact .done hlength (h.trans hrest)
    | cancelled hlength h => exact .cancelled hlength (h.trans (congrArg (State.cancel (1 + ds.length)) hrest))
    | stopped hstop hlast h => exact .stopped hstop hlast (h.trans hrest)

theorem Body.stops (hstop : req.stopOnError = true) : ∀ d ∈ ds.dropLast, d.ok = true := by
  cases h with
  | unready _ _ => simp
  | ready _ _ loop => exact loop.stops hstop

theorem Body.passed (hstop : req.stopOnError = true) (hanswer : answer = .ok ()) : ∀ d ∈ ds, d.ok = true := by
  cases h with
  | unready _ _ => simp
  | ready _ _ loop => exact loop.passed hstop hanswer

/-- Before the turns every board has all rows queued. -/
theorem Body.stretches : ∃ opening calls closing, new = opening ++ calls.flatten ++ closing ∧
    Update.talk opening = [] ∧ (∀ b ∈ boards opening, AllAgree req.macs [] b) ∧
    Update.talk closing = [] ∧ boards closing = [] ∧ Stretches req [] ds calls := by
  cases h with
  | unready hsteady hsilent =>
    refine ⟨new, [], [], by simp, hsilent, fun b hb => ?_, rfl, rfl, .nil⟩
    rw [hsteady.shown b hb]
    exact agrees_begin req hostWifiInitial
  | @ready before more mid _ _ _ hsteady hsilent loop =>
    have hmid : AllAgree req.macs [] (board req mid) := by
      rw [hsteady.begun.board_eq]
      exact agrees_begin req hostWifiInitial
    obtain ⟨calls, closing, rfl, htalk, hboards, hcalls⟩ := loop.stretches hmid
    refine ⟨before, calls, closing, by simp, hsilent, fun b hb => ?_, htalk, hboards, hcalls⟩
    rw [hsteady.shown b hb]
    exact agrees_begin req hostWifiInitial

end Body

/-! ### The end of a run -/

theorem Restores.silent {restore initial : Bool} {ssid : String} {calls : Calls} {notes : List Note}
    {switched : Option Bool} (h : Restores restore initial ssid calls notes switched) :
    talk calls = [] ∧ boards calls = [] := by
  cases h with
  | untouched _ => exact ⟨rfl, rfl⟩
  | off _ => exact ⟨rfl, rfl⟩
  | switched _ => exact ⟨rfl, rfl⟩

/-! ### What a run guarantees -/

/-- What the results of a run account for. -/
structure Account (req : Request) (answer : Except Raised Unit) (r : Results) : Prop where
  /-- A run answers only if it had something to send. -/
  answers : answer.toBool = decide req.HasOps
  /-- The records are those of the first devices of the list, in its order. -/
  addrs : r.devices.map DevRes.addr = req.macs.take r.devices.length
  expected : ∀ d ∈ r.devices, d.expectedMac = String.ofList (expectedMacHex d.addr)
  records : ∀ d ∈ r.devices, d.ok = true ↔ d.error = none
  /-- No error is lost and none is made up. -/
  errors : ∃ notes, r.errors = (r.devices.filterMap DevRes.error).map Note.said ++ notes ∧
    ∀ note ∈ notes, note.ofHost = true
  cancelled : r.cancelled = true → r.cancelledAfter = some r.devices.length ∧ r.devices.length < req.macs.length
  /-- Short of a cancel, a run that went well left no device out. -/
  complete : answer = .ok () → r.ok = true → r.cancelled = false → r.devices.length = req.macs.length
  /-- A run that is to stop on errors goes on after no failed device, and does not go well with one. -/
  stops : req.stopOnError = true →
    (∀ d ∈ r.devices.dropLast, d.ok = true) ∧ (r.ok = true → ∀ d ∈ r.devices, d.ok = true)
  summary : answer = .ok () → r.summary = summaryOf req.macs.length r

theorem cancelled_of_rest (h : rest t = rest s) :
    t.results.cancelled = s.results.cancelled ∧ t.results.cancelledAfter = s.results.cancelledAfter := by
  have hcancelled := congrArg (fun s : State => s.results.cancelled) h
  have hafter := congrArg (fun s : State => s.results.cancelledAfter) h
  exact ⟨hcancelled, hafter⟩

theorem Restores.notes_ofHost {restore initial : Bool} {ssid : String} {calls : Calls} {notes : List Note}
    {switched : Option Bool} (h : Restores restore initial ssid calls notes switched) :
    ∀ note ∈ notes, note.ofHost = true := by
  have hnote : ∀ (note : String → Note) (hnote : ∀ text, (note text).ofHost = true) (answer : Except Raised Unit),
      ∀ n ∈ noteOf note answer, n.ofHost = true := by
    intro note hnote answer n hn
    cases answer with
    | ok u => cases hn
    | error ex =>
      rw [List.mem_singleton.mp hn]
      exact hnote _
  cases h with
  | untouched _ => simp
  | off _ => simp
  | switched _ =>
    intro n hn
    rcases List.mem_append.mp hn with hn | hn
    · exact hnote _ (fun _ => rfl) _ n hn
    · exact hnote _ (fun _ => rfl) _ n hn

theorem restored_errors {restore initial : Bool} {ssid : String} {calls : Calls} {notes : List Note}
    {switched : Option Bool} (h : Restores restore initial ssid calls notes switched) (r : Results) :
    (r.restored notes switched).errors = r.errors ++ notes := by
  cases h with
  | untouched _ => exact (List.append_nil _).symm
  | off _ => exact (List.append_nil _).symm
  | @switched left answer _ => cases answer <;> rfl

/-- How the try of a run ends tells whether it was cancelled, and how far it came. -/
theorem Body.cancelled (h : Body req (req.begin hostWifiInitial) new ds answer t) :
    (t.results.cancelled = true → t.results.cancelledAfter = some ds.length ∧ ds.length < req.macs.length) ∧
    (answer = .ok () → t.results.cancelled = false → ds.length = req.macs.length) := by
  rcases h.ending with ⟨-, hrest, ex, rfl⟩ | hending
  · rw [(cancelled_of_rest hrest).1]
    exact ⟨fun h => (by cases h), fun h => (by cases h)⟩
  · cases hending with
    | done hlength hrest =>
      rw [(cancelled_of_rest hrest).1]
      exact ⟨fun h => (by cases h), fun _ _ => hlength⟩
    | cancelled hlength hrest =>
      rw [(cancelled_of_rest hrest).1, (cancelled_of_rest hrest).2]
      refine ⟨fun _ => ⟨?_, hlength⟩, fun _ h => (by cases h)⟩
      simp [State.cancel]
    | stopped _ _ hrest =>
      rw [(cancelled_of_rest hrest).1]
      exact ⟨fun h => (by cases h), fun h => (by cases h)⟩

/-- Every record of a run and every line of its errors is accounted for. -/
theorem update_accounts (o : World) (req : Request) (s : State) :
    Account req (runFirmwareUpdate o req ([], s)).1 (runFirmwareUpdate o req ([], s)).2.2.results := by
  obtain ⟨initial, ⟨hops, hanswer, -, ht⟩ | ⟨hops, hanswer, ds, ⟨body, ending, result, u, notes, switched, -,
    hbody, hrestores, ht⟩⟩⟩ := (says_runFirmwareUpdate o req).run s
  · rw [ht]
    have hnot : ∀ {P : Prop}, (runFirmwareUpdate o req ([], s)).1 = .ok () → P := by
      intro P h
      rw [h] at hanswer
      cases hanswer
    exact {
      answers := by rw [hanswer, decide_eq_false hops]
      addrs := rfl
      expected := by simp [State.start]
      records := by simp [State.start]
      errors := ⟨[], rfl, by simp⟩
      cancelled := fun h => by cases h
      complete := hnot
      stops := by simp [State.start]
      summary := hnot}
  · rw [hanswer, ht]
    obtain ⟨hdevices, haddrs⟩ := hbody.devices
    have hcancelled := hbody.cancelled
    have hwell : ((u.abort result).results.restored notes switched).ok = true → result = .ok () := by
      intro h
      rw [restored_ok] at h
      cases result with
      | ok _ => rfl
      | error ex => cases h
    exact {
      answers := by rw [decide_eq_true hops]; rfl
      addrs := by simpa [State.summarized, hdevices] using haddrs
      expected := by simpa [State.summarized, hdevices] using fun d hd => (hbody.records d hd).2
      records := by simpa [State.summarized, hdevices] using fun d hd => (hbody.records d hd).1
      errors := by
        refine ⟨notes, ?_, hrestores.notes_ofHost⟩
        simp [State.summarized, restored_errors hrestores, hdevices, hbody.errors]
      cancelled := by simpa [State.summarized, hdevices] using hcancelled.1
      complete := by
        intro _ hgood hnot
        simpa [State.summarized, hdevices] using hcancelled.2 (hwell hgood) (by simpa [State.summarized] using hnot)
      stops := by
        intro hstop
        simp only [State.summarized, restored_devices, abort_devices, hdevices]
        exact ⟨hbody.stops hstop, fun hgood => hbody.passed hstop (hwell hgood)⟩
      summary := fun _ => rfl}

/-- What is said to the nodes falls into stretches, one for each record in order. -/
theorem update_talks (o : World) (req : Request) (s : State) :
    ∃ stretches, talk (runFirmwareUpdate o req ([], s)).2.1 = stretches.flatten ∧
      List.Forall₂ (Device req) (runFirmwareUpdate o req ([], s)).2.2.results.devices stretches := by
  obtain ⟨initial, ⟨-, -, hcalls, ht⟩ | ⟨-, -, ds, ⟨body, ending, result, u, notes, switched, hcalls,
    hbody, hrestores, ht⟩⟩⟩ := (says_runFirmwareUpdate o req).run s
  · rw [hcalls, ht]
    exact ⟨[], rfl, .nil⟩
  · obtain ⟨stretches, htalk, hdevices⟩ := hbody.talk
    rw [hcalls, ht]
    refine ⟨stretches, ?_, ?_⟩
    · have hfirst : talk (⟨.radioEnabled, initial⟩ :: (body ++ ending)) = talk (body ++ ending) := rfl
      rw [hfirst, talk_append, hrestores.silent.1, List.append_nil, htalk]
    · simpa [State.summarized, hbody.devices.1] using hdevices

/-- The calls of a run fall into an opening, in whose boards every row is queued, one stretch for each record in
order, and a closing without boards; the last board agrees with all records. -/
theorem update_boards (o : World) (req : Request) (s : State) :
    (∃ opening calls closing, (runFirmwareUpdate o req ([], s)).2.1 = opening ++ calls.flatten ++ closing ∧
      talk opening = [] ∧ (∀ b ∈ boards opening, AllAgree req.macs [] b) ∧ talk closing = [] ∧ boards closing = [] ∧
      Stretches req [] (runFirmwareUpdate o req ([], s)).2.2.results.devices calls) ∧
    ∀ b, (boards (runFirmwareUpdate o req ([], s)).2.1).getLast? = some b →
      AllAgree req.macs (runFirmwareUpdate o req ([], s)).2.2.results.devices b := by
  obtain ⟨initial, ⟨-, -, hcalls, ht⟩ | ⟨-, -, ds, ⟨body, ending, result, u, notes, switched, hcalls,
    hbody, hrestores, ht⟩⟩⟩ := (says_runFirmwareUpdate o req).run s
  · rw [hcalls, ht]
    exact ⟨⟨[⟨.radioEnabled, initial⟩], [], [], rfl, rfl, fun b hb => (by cases hb), rfl, rfl, .nil⟩,
      fun b hb => (by cases hb)⟩
  · obtain ⟨opening, calls, closing, rfl, htalk, hopening, htalk', hboards, hstretches⟩ := hbody.stretches
    obtain ⟨hsilent, hblank⟩ := hrestores.silent
    have hdevices : (runFirmwareUpdate o req ([], s)).2.2.results.devices = ds := by
      rw [ht]
      simpa [State.summarized] using hbody.devices.1
    rw [hcalls, hdevices]
    refine ⟨⟨⟨.radioEnabled, initial⟩ :: opening, calls, closing ++ ending, by simp, htalk, hopening, ?_, ?_,
      hstretches⟩, fun b hb => ?_⟩
    · rw [talk_append, htalk', hsilent, List.append_nil]
    · rw [boards_append, hboards, hblank, List.append_nil]
    · have hshown : boards (⟨.radioEnabled, initial⟩ :: (opening ++ calls.flatten ++ closing ++ ending)) =
          boards opening ++ boards calls.flatten := by
        have hfirst : boards (⟨.radioEnabled, initial⟩ :: (opening ++ calls.flatten ++ closing ++ ending)) =
          boards (opening ++ calls.flatten ++ closing ++ ending) := rfl
        rw [hfirst, boards_append, boards_append, boards_append, hboards, hblank, List.append_nil, List.append_nil]
      rw [hshown] at hb
      exact hstretches.last (fun b' hb' => hopening b' (List.mem_of_getLast? hb')) b hb

end RaceLink.Update
