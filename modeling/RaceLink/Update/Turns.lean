import RaceLink.Update.Phases

/-! The turn of a device in the loop of an update, whatever the world answers: the record it leaves, the
row that is shown of it, and what is said to the node. -/
namespace RaceLink.Update
open Python Library Talk

variable {req : Request} {s t u : State} {new new' : Calls} {addr : String} {ds : List DevRes} {d : DevRes}

/-! ### What a record tells -/

/-- The row of a device whose turn is over. -/
def SettledRow (d : DevRes) (row : RowState) : Prop :=
  if d.ok then row = .ok ∨ row = .reannounceTimeout else row = .error

/-- The parts of the state that a turn leaves alone. -/
def rest (s : State) : State :=
  {s with
    deviceState := [], deviceMessages := [], lastConnectedSsid := "", lastConnectedBssid := "", apOpened := false
    results := {s.results with
      hostWifi := {s.results.hostWifi with enabled := false}, devices := [], errors := []}}

theorem exists_of_modifyLast {f : DevRes → DevRes} {xs ys : List DevRes} {y : DevRes}
    (h : modifyLast f xs = ys ++ [y]) : ∃ x, xs = ys ++ [x] ∧ f x = y := by
  obtain rfl | ⟨front, x, rfl⟩ := List.eq_nil_or_concat' xs
  · simp [modifyLast] at h
  · rw [modifyLast_append, List.append_singleton_inj] at h
    exact ⟨x, by rw [h.1], h.2⟩

/-! ### Steps that only show something -/

section Steps
variable (o : World)

/-- What one emit says. -/
def Shown (req : Request) (s : State) (new : Calls) : Prop :=
  boards new = [board req s] ∧ talk new = []

theorem says_emit (req : Request) (stage : Stage) (message addr : String) (index : Nat) (attempt : Option Nat) :
    Says (emit o req stage message addr index attempt) fun s new answer t =>
      answer = .ok () ∧ t = s ∧ Shown req s new :=
  fun _ _ => ⟨[⟨.update _, ()⟩], rfl, rfl, rfl, rfl, rfl⟩

theorem says_emit_bind {α : Type} {m : Step α} {R : Spec Call Answer Raised State α} (req : Request) (stage : Stage)
    (message addr : String) (index : Nat) (attempt : Option Nat) (hm : Says m R) :
    Says (emit o req stage message addr index attempt >>= fun _ => m) fun s new answer t =>
      ∃ emitted rest, new = emitted ++ rest ∧ Shown req s emitted ∧ R s rest answer t := by
  refine ((says_emit o req stage message addr index attempt).bind fun _ => hm).mono fun s new answer t h => ?_
  rcases h with ⟨ex, -, h, -⟩ | ⟨_, emitted, mid, rest, rfl, ⟨-, rfl, hshown⟩, hR⟩
  · cases h
  · exact ⟨emitted, rest, rfl, hshown, hR⟩

/-- The state of a device whose update went through. -/
def State.succeed (addr : String) (s : State) : State :=
  {s with
    deviceState := setRow addr .ok s.deviceState
    results := {s.results with devices := modifyLast (fun d => {d with ok := true}) s.results.devices}}

/-- The state of a device whose update failed. -/
def State.fail (addr message : String) (s : State) : State :=
  {s with
    deviceState := setRow addr .error s.deviceState
    deviceMessages := setRow addr message s.deviceMessages
    results := {s.results with
      devices := modifyLast (fun d => {d with error := some message}) s.results.devices
      errors := s.results.errors ++ [.said message]}}

theorem says_succeeded (addr : String) (index : Nat) :
    Says (succeeded o req addr index) fun s new answer t =>
      answer = .ok () ∧ t = s.succeed addr ∧ Shown req t new := by
  have hgo := says_modify_bind (g := fun s : State => {s with results := {s.results with
      devices := modifyLast (fun d => {d with ok := true}) s.results.devices}})
    (says_modify_bind (g := fun s : State => {s with deviceState := setRow addr .ok s.deviceState})
      (says_emit_bind o req .deviceDone s!"{addr}: update complete" addr index none
        (says_ask_bind (o := o) (c := .disconnectIfaceFast req.wifi.iface) fun _ => says_pure (ε := Raised) ())))
  refine hgo.mono fun s new answer t h => ?_
  obtain ⟨emitted, rest, rfl, ⟨hboards, htalk⟩, a, more, rfl, rfl, rfl, rfl⟩ := h
  refine ⟨rfl, rfl, ?_, ?_⟩
  · rw [boards_append, hboards]
    rfl
  · rw [talk_append, htalk]
    rfl

theorem says_failed (req : Request) (addr : String) (index : Nat) (ex : Raised) :
    Says (failed o req addr index ex) fun s new answer t =>
      (answer = if req.stopOnError then .error ex else .ok ()) ∧ t = s.fail addr ex.message ∧ Shown req t new := by
  have hraise : Says (orRaise (!req.stopOnError) ex) fun s new answer t =>
      new = [] ∧ answer = (if req.stopOnError then .error ex else .ok ()) ∧ t = s := by
    cases req.stopOnError with
    | true => exact says_raise ex
    | false => exact says_pure ()
  have hgo := says_modify_bind (g := fun s : State => {s with results := {s.results with
      devices := modifyLast (fun d => {d with error := some ex.message}) s.results.devices}})
    (says_modify_bind (g := fun s : State => {s with results := {s.results with
      errors := s.results.errors ++ [.said ex.message]}})
    (says_modify_bind (g := fun s : State => {s with deviceState := setRow addr .error s.deviceState})
    (says_modify_bind (g := fun s : State => {s with deviceMessages := setRow addr ex.message s.deviceMessages})
      (says_emit_bind o req .deviceError s!"{addr}: {ex.message}" addr index none hraise))))
  refine hgo.mono fun s new answer t h => ?_
  obtain ⟨emitted, rest, rfl, hshown, rfl, rfl, rfl⟩ := h
  rw [List.append_nil]
  exact ⟨rfl, rfl, hshown⟩

/-- What the `try` of a device leaves: up to the last file the board stays as it is. -/
def Tries (req : Request) (addr : String) : Spec Call Answer Raised State Unit := fun s new answer t =>
  ∃ u front last, new = front ++ last ∧ Steady req (board req s) {s with apOpened := u.apOpened} front u ∧
    Flashes req addr answer.toBool (talk front) ∧ (u.apOpened = true ↔ Opened (talk front)) ∧
    ((answer = .ok () ∧ t = u.succeed addr ∧ Shown req t last) ∨ (answer.toBool = false ∧ t = u ∧ last = []))

theorem says_flash (req : Request) (hostWifiInitial : Bool) (addr : String) (index : Nat) :
    Says (flash o req hostWifiInitial (String.ofList (expectedMacHex addr)) addr index) fun s new answer t =>
      s.apOpened = false → Tries req addr s new answer t := by
  have hopen := Says.at_state (fun v => says_openAp o req v addr index) (board req)
  have hdeliver := Says.at_state (fun v => plain_deliver o req v hostWifiInitial
    (String.ofList (expectedMacHex addr)) addr index) (board req)
  refine (hopen.bind fun _ => hdeliver.bind fun _ => says_succeeded o addr index).mono ?_
  intro s new answer t h hclosed
  rcases h with ⟨ex, rfl, h⟩ | ⟨_, opening, mid, more, rfl, h, hrest⟩
  · obtain ⟨hsteady, hopens⟩ := h rfl hclosed
    have happ : t.apOpened = false := congrArg State.apOpened hsteady.core_eq
    refine ⟨t, new, [], (List.append_nil new).symm, ?_, .inl ⟨rfl, hopens⟩, ?_, .inr ⟨rfl, rfl, rfl⟩⟩
    · rwa [happ]
    · rw [opened_iff hopens, happ]
      rfl
  · obtain ⟨hsteady, hopens⟩ := h rfl hclosed
    have happ : mid.apOpened = true := congrArg State.apOpened hsteady.core_eq
    have hboard : board req mid = board req s := (board_eq_of_core hsteady.core_eq :)
    -- An AP that was opened stays so while the files are delivered over it.
    have hjoin : ∀ {ok : Bool} {delivering : Calls} {u : State}, Steady req (board req mid) mid delivering u →
        Delivers req (String.ofList (expectedMacHex addr)) ok (talk delivering) →
        Steady req (board req s) {s with apOpened := u.apOpened} (opening ++ delivering) u ∧
          Flashes req addr ok (talk (opening ++ delivering)) ∧
          (u.apOpened = true ↔ Opened (talk (opening ++ delivering))) := by
      intro ok delivering u hsteady' hdelivers
      have happ' : u.apOpened = true := (congrArg State.apOpened hsteady'.core_eq).trans happ
      rw [hboard] at hsteady'
      rw [talk_append, happ', opened_append]
      refine ⟨hsteady.trans hsteady', .inr ⟨_, _, rfl, hopens, hdelivers⟩, ?_⟩
      exact iff_of_true rfl (.inl ((opened_iff hopens).mpr rfl))
    rcases hrest with ⟨ex, rfl, h⟩ | ⟨_, delivering, u, last, rfl, h, rfl, rfl, hshown⟩
    · obtain ⟨hsteady', hdelivers⟩ := h rfl
      obtain ⟨hjoined, hflashes, hopened⟩ := hjoin hsteady' hdelivers
      exact ⟨t, opening ++ more, [], (List.append_nil _).symm, hjoined, hflashes, hopened, .inr ⟨rfl, rfl, rfl⟩⟩
    · obtain ⟨hsteady', hdelivers⟩ := h rfl
      obtain ⟨hjoined, hflashes, hopened⟩ := hjoin hsteady' hdelivers
      exact ⟨u, opening ++ delivering, last, (List.append_assoc ..).symm, hjoined, hflashes, hopened,
        .inl ⟨rfl, rfl, hshown⟩⟩

/-! ### The end of a turn -/

/-- The boards that are shown from `s` to `t` are those of `s` and `t`, and the last one is of `t`. -/
structure Shows (req : Request) (s : State) (new : Calls) (t : State) : Prop where
  either : ∀ b ∈ boards new, b = board req s ∨ b = board req t
  last : (boards new).getLast?.getD (board req s) = board req t

/-- A device that came back, or did not, after its update. -/
def State.returned (addr : String) (back : Bool) (restored : AutoRestore) (s : State) : State :=
  {s with
    deviceState := if back then s.deviceState else setRow addr .reannounceTimeout s.deviceState
    results := {s.results with
      devices := modifyLast (fun d => {d with autoRestoreOk := some restored}) s.results.devices}}

/-- A step that answers and changes nothing, with calls that are of no account here. -/
def Mute {α : Type} : Spec Call Answer Raised State α := fun s new answer t =>
  t = s ∧ boards new = [] ∧ talk new = [] ∧ ∃ a, answer = .ok a

theorem says_waited {x : Step (Except Raised Bool)} (hx : Says x Mute) : Says (waited x) Mute := by
  unfold waited
  refine (hx.bind (S := fun _ s new answer t => new = [] ∧ t = s ∧ ∃ a, answer = .ok a) fun a => ?_).mono ?_
  · cases a with
    | ok answer => exact (says_pure answer).mono fun s new ans t h => ⟨h.1, h.2.2, answer, h.2.1⟩
    | error ex => exact (says_pure false).mono fun s new ans t h => ⟨h.1, h.2.2, false, h.2.1⟩
  · intro s new answer t h
    rcases h with ⟨ex, rfl, -, -, -, a, h⟩ | ⟨a, first, mid, rest, rfl, ⟨rfl, hfirst⟩, rfl, rfl, hok⟩
    · cases h
    · rw [List.append_nil]
      exact ⟨rfl, hfirst.1, hfirst.2.1, hok⟩

theorem mute_ask {c : Call} (hnode : c.toNode = false) (hboards : ∀ a, boards [⟨c, a⟩] = []) :
    Says (ask o c : Step (Answer c)) Mute := by
  refine (says_ask o c).mono fun s new answer t h => ?_
  obtain ⟨a, rfl, rfl, rfl⟩ := h
  exact ⟨rfl, hboards a, by simp [talk, hnode], a, rfl⟩

theorem says_mute_bind {α β : Type} {m : Step β} {f : β → Step α} {R : β → Spec Call Answer Raised State α}
    (hm : Says m Mute) (hf : ∀ b, Says (f b) (R b)) : Says (m >>= f) fun s new answer t =>
      ∃ b first rest, new = first ++ rest ∧ (boards first = [] ∧ talk first = []) ∧ R b s rest answer t := by
  refine (hm.bind hf).mono fun s new answer t h => ?_
  rcases h with ⟨ex, -, -, -, -, a, h⟩ | ⟨b, first, mid, rest, rfl, ⟨rfl, hb, ht, -⟩, hR⟩
  · cases h
  · exact ⟨b, first, rest, rfl, ⟨hb, ht⟩, hR⟩

theorem says_modifyDevice (f : DevRes → DevRes) : Says (modifyDevice f) fun s new answer t =>
    new = [] ∧ answer = .ok () ∧
      t = {s with results := {s.results with devices := modifyLast f s.results.devices}} := says_modify _

theorem says_awaitReturn (addr : String) (index : Nat) :
    Says (awaitReturn o req addr index) fun s new answer t => answer = .ok () ∧
      talk new = [] ∧ Shows req s new t ∧ ∃ back restored, t = s.returned addr back restored := by
  have hback : Says (do
      emit o req .autorestoreWait s!"Waiting for auto-restore SET_GROUP for {addr}" addr index
      let restored ← waited (ask o (.waitForAutoRestore addr))
      modifyDevice fun d => {d with autoRestoreOk := some (if restored then .done else .timeout)}) _ :=
    says_emit_bind o req _ _ _ _ _ (says_mute_bind
      (says_waited (mute_ask o (c := .waitForAutoRestore addr) rfl fun _ => rfl))
      fun restored => says_modifyDevice _)
  have haway := says_modify_bind
    (g := fun s : State => {s with deviceState := setRow addr .reannounceTimeout s.deviceState})
    (says_modify_bind (g := fun s : State => {s with results := {s.results with
      devices := modifyLast (fun d => {d with autoRestoreOk := some .timeout}) s.results.devices}})
    (says_emit o req .reannounceTimeout s!"{addr} did not re-register on RaceLink within 30s" addr index none))
  refine (says_emit_bind o req .reannounceWait _ addr index none (says_mute_bind
    (says_waited (mute_ask o (c := .waitForIdentify addr) rfl fun _ => rfl))
    (R := fun back s new answer t => answer = .ok () ∧ talk new = [] ∧
      (boards new = [board req t]) ∧ ∃ restored, t = s.returned addr back restored) fun back => ?_)).mono ?_
  · cases back with
    | true =>
      refine hback.mono fun s new answer t h => ?_
      obtain ⟨emitted, more, rfl, ⟨hb, ht⟩, restored, first, last, rfl, ⟨hb', ht'⟩, rfl, rfl, rfl⟩ := h
      refine ⟨rfl, ?_, ?_, _, rfl⟩
      · simp [ht, ht']
      · simp [hb, hb', board]
    | false =>
      refine haway.mono fun s new answer t h => ?_
      obtain ⟨rfl, rfl, hb, ht⟩ := h
      exact ⟨rfl, ht, hb, _, rfl⟩
  · intro s new answer t h
    obtain ⟨emitted, more, rfl, ⟨hb, ht⟩, back, first, last, rfl, ⟨hb', ht'⟩, rfl, ht'', hb'', hreturned⟩ := h
    refine ⟨rfl, ?_, ⟨?_, ?_⟩, back, hreturned⟩
    · simp [ht, ht', ht'']
    · intro b hmem
      simpa [hb, hb', hb''] using hmem
    · simp [hb, hb', hb'']

/-- The AP is switched off, unless the radio cannot use the address. -/
def Closes (addr : String) (said : List Said) : Prop :=
  ((∃ ex, recv3BytesFromAddr addr = .error ex) ∧ said = []) ∨ ∃ answers, Switches 0 addr answers said

theorem plain_closeAp (req : Request) (v : Board) (addr : String) (index : Nat) :
    Says (closeAp o req addr index) (Plain req v fun answer said => answer = .ok () ∧ Closes addr said) := by
  have hcloses : ∀ {answer said}, Switched 0 addr 2 answer said → Closes addr said := by
    intro answer said h
    rcases h with ⟨ex, haddr, rfl, -⟩ | ⟨recv3, answers, haddr, htried, rfl, -⟩
    · exact .inl ⟨⟨ex, haddr⟩, rfl⟩
    · exact .inr ⟨answers, recv3, haddr, htried, rfl⟩
  have htries : Says (do
      let _ ← Action.attempts (switchAp o req .apClose "Disable WLED AP via RaceLink " 0 addr index) 1 2
      pure ()) (Plain req v fun _ said => Closes addr said) := by
    refine plain_mono (plain_seq (plain_attempts (plain_switchAp o _ _ 0 addr index) 1 2)
      (S := fun _ answer said => said = []) fun _ => plain_pure () rfl) ?_
    intro answer said h
    rcases h with ⟨ex, rfl, h⟩ | ⟨ok, tried, more, rfl, h, rfl⟩
    · exact hcloses h
    · rw [List.append_nil]
      exact hcloses h
  refine (htries.orExcept fun _ => says_pure ()).mono fun s new answer t h hv => ?_
  rcases h with ⟨a, rfl, h⟩ | ⟨ex, first, mid, more, rfl, h, rfl, rfl, rfl⟩
  · exact ⟨(h hv).1, rfl, (h hv).2⟩
  · rw [List.append_nil]
    exact ⟨(h hv).1, rfl, (h hv).2⟩

/-- The end of the turn of a device whose update went through. -/
def Returns (req : Request) (addr : String) : Spec Call Answer Raised State Unit := fun s new answer t =>
  answer = .ok () ∧ talk new = [] ∧ Shows req s new t ∧
    (t = s ∨ ∃ back restored, t = s.returned addr back restored)

/-- The end of the turn of a device whose update failed. -/
def GivesUp (req : Request) (addr : String) : Spec Call Answer Raised State Unit := fun s new answer t =>
  answer = .ok () ∧ Steady req (board req s) s new t ∧
    (s.apOpened = true → Closes addr (talk new)) ∧ (s.apOpened = false → talk new = [])

theorem says_onlyIf_awaitReturn (gatewayService : Bool) (addr : String) (index : Nat) :
    Says (onlyIf gatewayService (awaitReturn o req addr index)) (Returns req addr) := by
  cases gatewayService with
  | true =>
    rw [onlyIf_true]
    refine (says_awaitReturn o addr index).mono fun s new answer t h => ?_
    obtain ⟨hanswer, htalk, hshows, hreturned⟩ := h
    exact ⟨hanswer, htalk, hshows, .inr hreturned⟩
  | false =>
    refine (says_pure ()).mono fun s new answer t h => ?_
    obtain ⟨rfl, rfl, rfl⟩ := h
    exact ⟨rfl, rfl, ⟨fun b hb => (by cases hb), rfl⟩, .inl rfl⟩

theorem says_onlyIf_closeAp (req : Request) (addr : String) (index : Nat) :
    Says (gets State.apOpened >>= fun opened => onlyIf opened (closeAp o req addr index)) (GivesUp req addr) := by
  have hclose := Says.at_state (fun v => plain_closeAp o req v addr index) (board req)
  refine (says_gets_bind (R := fun opened s new answer t => answer = .ok () ∧ Steady req (board req s) s new t ∧
    (opened = true → Closes addr (talk new)) ∧ (opened = false → talk new = [])) fun opened => ?_).mono
    fun s new answer t h => h
  cases opened with
  | true =>
    rw [onlyIf_true]
    refine hclose.mono fun s new answer t h => ?_
    obtain ⟨hsteady, hanswer, hcloses⟩ := h rfl
    exact ⟨hanswer, hsteady, fun _ => hcloses, fun h => by cases h⟩
  | false =>
    refine (says_pure ()).mono fun s new answer t h => ?_
    obtain ⟨rfl, rfl, rfl⟩ := h
    exact ⟨rfl, .silent rfl rfl, fun h => (by cases h), fun _ => rfl⟩

theorem says_settle (addr : String) (index : Nat) :
    Says (settle o req addr index) fun s new answer t =>
      if currentOk s then Returns req addr s new answer t else GivesUp req addr s new answer t := by
  refine (says_gets_bind (R := fun ok s new answer t =>
    if ok then Returns req addr s new answer t else GivesUp req addr s new answer t) fun ok => ?_).mono
    fun s new answer t h => h
  cases ok with
  | true =>
    have hnothing : ∀ opened : Bool, Says (onlyIf (opened && !true) (closeAp o req addr index))
        fun s new answer t => new = [] ∧ answer = .ok () ∧ t = s := by
      intro opened
      rw [Bool.not_true, Bool.and_false, onlyIf_false]
      exact says_pure ()
    refine ((says_onlyIf_awaitReturn o _ addr index).bind fun _ => says_gets_bind hnothing).mono ?_
    intro s new answer t h
    rcases h with ⟨ex, -, h, -⟩ | ⟨_, first, mid, more, rfl, h, rfl, rfl, rfl⟩
    · cases h
    · rw [List.append_nil]
      exact h
  | false =>
    have hskip : Says (onlyIf (false && req.gatewayService) (awaitReturn o req addr index))
        fun s new answer t => new = [] ∧ answer = .ok () ∧ t = s := says_pure ()
    have hclose : Says (gets State.apOpened >>= fun opened => onlyIf (opened && !false) (closeAp o req addr index))
        (GivesUp req addr) := by
      simpa using says_onlyIf_closeAp o req addr index
    refine (hskip.bind fun _ => hclose).mono ?_
    intro s new answer t h
    rcases h with ⟨ex, -, -, h, -⟩ | ⟨_, first, mid, more, rfl, ⟨rfl, -, rfl⟩, h⟩
    · cases h
    · exact h

end Steps

/-! ### The whole turn -/

/-- What is learnt of the connection, taken out of a record. -/
def DevRes.plain (d : DevRes) : DevRes := {d with ssid := none, infoBefore := none}

theorem devices_of_core {d₀ : DevRes} (h : core u = core s) (hs : s.results.devices = ds ++ [d₀]) :
    ∃ d, u.results.devices = ds ++ [d] ∧ d.plain = d₀.plain := by
  have hdevices := congrArg (fun s : State => s.results.devices) h
  simp only [core, hs, modifyLast_append] at hdevices
  exact exists_of_modifyLast hdevices

theorem rest_of_core (h : core u = core s) : rest u = rest s := by
  have hrest := congrArg rest h
  exact hrest

theorem rows_of_core (h : core u = core s) :
    u.deviceState = s.deviceState ∧ u.deviceMessages = s.deviceMessages ∧ u.results.errors = s.results.errors :=
  ⟨(congrArg State.deviceState h :), (congrArg State.deviceMessages h :),
    (congrArg (fun s : State => s.results.errors) h :)⟩

theorem setRow_setRow {α : Type} (key : String) (x y : α) (rows : List (String × α)) :
    setRow key y (setRow key x rows) = setRow key y rows := by
  induction rows with
  | nil => simp [setRow, putKey]
  | cons row more ih =>
    unfold setRow at ih ⊢
    by_cases hrow : row.1 = key
    · simp [putKey, hrow]
    · simp [putKey, hrow, ih]

/-- A board of a device's turn: of all rows only its own has changed, and is not queued any more. -/
def Live (req : Request) (s : State) (addr : String) (b : Board) : Prop :=
  ∃ row messages, row ≠ .queued ∧
    (messages = s.deviceMessages ∨ ∃ text, messages = setRow addr text s.deviceMessages) ∧
    b = board req {s with deviceState := setRow addr row s.deviceState, deviceMessages := messages}

/-- The messages after the turn of a device. -/
def messagesAfter (s : State) (d : DevRes) : List (String × String) :=
  match d.error with
  | none => s.deviceMessages
  | some text => setRow d.addr text s.deviceMessages

/-- What the turn of a device with address `addr` leaves. -/
structure Turn (req : Request) (addr : String) (s : State) (new : Calls) (answer : Except Raised Unit)
    (t : State) (d : DevRes) : Prop where
  devices : t.results.devices = s.results.devices ++ [d]
  addr_eq : d.addr = addr
  expectedMac_eq : d.expectedMac = String.ofList (expectedMacHex addr)
  ok_iff : d.ok = true ↔ d.error = none
  errors : t.results.errors = s.results.errors ++ (d.error.map Note.said).toList
  answered : answer.toBool = !(req.stopOnError && !d.ok)
  row : ∃ row, SettledRow d row ∧ t.deviceState = setRow addr row s.deviceState
  messages : t.deviceMessages = messagesAfter s d
  rest_eq : rest t = rest s
  talk : Device req d (talk new)
  live : ∀ b ∈ boards new, Live req s addr b
  last : (boards new).getLast? = some (board req t)

/-- The state a device's `try` starts in. -/
def State.begin (addr : String) (known : List Known) (s : State) : State :=
  {s with
    deviceState := setRow addr .running s.deviceState
    apOpened := false
    results := {s.results with devices := s.results.devices ++ [{
      addr := addr, expectedMac := String.ofList (expectedMacHex addr)
      groupId := lookupGroupIdForAddr addr known}]}}

/-- What the record of a device says once its `try` has begun. -/
theorem begun {known : List Known} {front : Calls}
    (hsteady : Steady req (board req (s.begin addr known)) {s.begin addr known with apOpened := u.apOpened} front u) :
    (∃ d, u.results.devices = s.results.devices ++ [d] ∧ d.addr = addr ∧
      d.expectedMac = String.ofList (expectedMacHex addr) ∧ d.ok = false ∧ d.error = none) ∧
    u.deviceState = setRow addr .running s.deviceState ∧ u.deviceMessages = s.deviceMessages ∧
    u.results.errors = s.results.errors ∧ rest u = rest s ∧
    ∀ b ∈ boards front, Live req s addr b := by
  obtain ⟨hrows, hmessages, herrors⟩ := rows_of_core hsteady.core_eq
  obtain ⟨d, hd, hplain⟩ := devices_of_core hsteady.core_eq rfl
  have hrest : rest u = rest s := (rest_of_core hsteady.core_eq :)
  refine ⟨⟨d, hd, ?_, ?_, ?_, ?_⟩, hrows, hmessages, herrors, hrest, ?_⟩
  · exact (congrArg DevRes.addr hplain :)
  · exact (congrArg DevRes.expectedMac hplain :)
  · exact (congrArg DevRes.ok hplain :)
  · exact (congrArg DevRes.error hplain :)
  · intro b hb
    rw [hsteady.shown b hb]
    exact ⟨.running, s.deviceMessages, by decide, .inl rfl, rfl⟩

theorem live_of_rows {row : RowState} (hrow : row ≠ .queued)
    (hstate : t.deviceState = setRow addr row s.deviceState) {messages : List (String × String)}
    (hmessages : messages = s.deviceMessages ∨ ∃ text, messages = setRow addr text s.deviceMessages)
    (ht : t.deviceMessages = messages) : Live req s addr (board req t) := by
  refine ⟨row, messages, hrow, hmessages, ?_⟩
  simp only [board, hstate, ht]

theorem getLast?_shown {xs zs : List Board} {y b : Board} (h : zs.getLast?.getD y = b) :
    (xs ++ [y] ++ zs).getLast? = some b := by
  rw [List.getLast?_append, List.getLast?_append]
  cases hzs : zs.getLast? with
  | none =>
    rw [hzs] at h
    exact congrArg some h
  | some z =>
    rw [hzs] at h
    exact congrArg some h

/-- The turn of a device whose update went through. -/
theorem turn_of_succeeded {known : List Known} {front shown ending : Calls}
    (hsteady : Steady req (board req (s.begin addr known)) {s.begin addr known with apOpened := u.apOpened} front u)
    (hflashes : Flashes req addr true (talk front)) (hshown : Shown req (u.succeed addr) shown)
    {answer : Except Raised Unit} (hreturns : Returns req addr (u.succeed addr) ending answer t) :
    ∃ d, Turn req addr s (front ++ shown ++ ending) (.ok ()) t d := by
  obtain ⟨⟨d₁, hd, haddr, hmac, -, herror⟩, hrows, hmessages, herrors, hrest, hlive⟩ := begun hsteady
  obtain ⟨hboards, htalk⟩ := hshown
  obtain ⟨-, htalk', hshows, hend⟩ := hreturns
  have hsucceed : (u.succeed addr).deviceState = setRow addr .ok s.deviceState := by
    rw [State.succeed, hrows, setRow_setRow]
  have hdevices : (u.succeed addr).results.devices = s.results.devices ++ [{d₁ with ok := true}] := by
    rw [State.succeed, hd, modifyLast_append]
  -- The record and the row of a device that was waited for, or not.
  obtain ⟨restored, row, hrow, hstate, hdevices', hmessages', herrors', hrest'⟩ : ∃ restored row,
      (row = .ok ∨ row = .reannounceTimeout) ∧ t.deviceState = setRow addr row s.deviceState ∧
      t.results.devices = s.results.devices ++ [{d₁ with ok := true, autoRestoreOk := restored}] ∧
      t.deviceMessages = s.deviceMessages ∧ t.results.errors = s.results.errors ∧ rest t = rest s := by
    rcases hend with rfl | ⟨back, restored, rfl⟩
    · exact ⟨d₁.autoRestoreOk, .ok, .inl rfl, hsucceed, hdevices, hmessages, herrors, hrest⟩
    · refine ⟨some restored, if back then .ok else .reannounceTimeout, ?_, ?_, ?_, hmessages, herrors, hrest⟩
      · cases back <;> simp
      · cases back with
        | true => exact hsucceed
        | false =>
          show setRow addr .reannounceTimeout (u.succeed addr).deviceState = _
          rw [hsucceed, setRow_setRow]
          rfl
      · show modifyLast _ (u.succeed addr).results.devices = _
        rw [hdevices, modifyLast_append]
  refine ⟨{d₁ with ok := true, autoRestoreOk := restored}, hdevices', haddr, hmac, ?_, ?_, ?_,
    ⟨row, ?_, hstate⟩, ?_, hrest', ?_, ?_, ?_⟩
  · simp [herror]
  · rw [herrors']
    simp [herror]
  · simp [Except.toBool]
  · exact hrow
  · rw [hmessages', messagesAfter]
    simp only [herror]
  · rw [talk_append, talk_append, htalk, htalk', List.append_nil, List.append_nil]
    refine ⟨talk front, [], (List.append_nil _).symm, ?_, ?_, fun _ => rfl⟩
    · show Flashes req d₁.addr true (talk front)
      rwa [haddr]
    · intro h
      cases h.2
  · have hrow' : row ≠ .queued := by
      rcases hrow with rfl | rfl
      · decide
      · decide
    have hliveu : Live req s addr (board req (u.succeed addr)) :=
      live_of_rows (by decide) hsucceed (.inl rfl) hmessages
    have hlivet : Live req s addr (board req t) := live_of_rows hrow' hstate (.inl rfl) hmessages'
    intro b hb
    simp only [boards_append, hboards, List.mem_append, List.mem_singleton] at hb
    rcases hb with (hb | rfl) | hb
    · exact hlive b hb
    · exact hliveu
    · rcases hshows.either b hb with rfl | rfl
      · exact hliveu
      · exact hlivet
  · rw [boards_append, boards_append, hboards]
    exact getLast?_shown hshows.last

/-- An AP is only opened where the radio can use the address. -/
theorem valid_of_opened {ok : Bool} {said : List Said} (h : Flashes req addr ok said) (hopen : Opened said)
    (ex : Raised) : recv3BytesFromAddr addr ≠ .error ex := by
  rcases h with ⟨-, h⟩ | ⟨first, rest, rfl, ⟨-, h, -⟩ | ⟨answers, ⟨recv3, haddr, -⟩, -⟩, -⟩
  · exact absurd ((opened_iff h).mp hopen) Bool.false_ne_true
  · cases h
  · intro hinvalid
    rw [haddr] at hinvalid
    cases hinvalid

/-- The turn of a device whose update failed. -/
theorem turn_of_failed {known : List Known} {front shown ending : Calls} {message : String}
    (hsteady : Steady req (board req (s.begin addr known)) {s.begin addr known with apOpened := u.apOpened} front u)
    (hflashes : Flashes req addr false (talk front)) (hopened : u.apOpened = true ↔ Opened (talk front))
    (hshown : Shown req (u.fail addr message) shown)
    {answer : Except Raised Unit} (hgives : GivesUp req addr (u.fail addr message) ending answer t)
    {raised : Except Raised Unit} (hraised : raised.toBool = !req.stopOnError) :
    ∃ d, Turn req addr s (front ++ shown ++ ending) raised t d := by
  obtain ⟨⟨d₁, hd, haddr, hmac, hok, -⟩, hrows, hmessages, herrors, hrest, hlive⟩ := begun hsteady
  obtain ⟨hboards, htalk⟩ := hshown
  obtain ⟨-, hsteady', hcloses, hquiet⟩ := hgives
  obtain ⟨hrows', hmessages', herrors'⟩ := rows_of_core hsteady'.core_eq
  have hfail : (u.fail addr message).results.devices = s.results.devices ++ [{d₁ with error := some message}] := by
    rw [State.fail, hd, modifyLast_append]
  obtain ⟨d, hdevices, hplain⟩ := devices_of_core hsteady'.core_eq hfail
  have haddr' : d.addr = addr := (congrArg DevRes.addr hplain : _).trans haddr
  have hok' : d.ok = false := (congrArg DevRes.ok hplain : _).trans hok
  have herror : d.error = some message := (congrArg DevRes.error hplain :)
  have hstate : t.deviceState = setRow addr .error s.deviceState := by
    rw [hrows', State.fail, hrows, setRow_setRow]
  have htexts : t.deviceMessages = setRow addr message s.deviceMessages := by
    rw [hmessages', State.fail, hmessages]
  refine ⟨d, hdevices, haddr', (congrArg DevRes.expectedMac hplain : _).trans hmac, ?_, ?_, ?_,
    ⟨.error, ?_, hstate⟩, ?_, (rest_of_core hsteady'.core_eq).trans hrest, ?_, ?_, ?_⟩
  · simp [hok', herror]
  · rw [herrors', herror, State.fail, herrors]
    rfl
  · rw [hraised, hok', Bool.not_false, Bool.and_true]
  · simp [SettledRow, hok']
  · rw [htexts, messagesAfter, herror, haddr']
  · refine ⟨talk front, talk ending, ?_, ?_, ?_, ?_⟩
    · rw [talk_append, talk_append, htalk, List.append_nil]
    · rwa [haddr', hok']
    · rintro ⟨hopen, -⟩
      rcases hcloses (hopened.mpr hopen) with ⟨⟨ex, hinvalid⟩, -⟩ | hcloses
      · exact absurd hinvalid (valid_of_opened hflashes hopen ex)
      · rwa [haddr']
    · intro h
      refine hquiet ?_
      by_contra happ
      exact h ⟨hopened.mp (by simpa [State.fail] using happ), hok'⟩
  · intro b hb
    simp only [boards_append, hboards, List.mem_append, List.mem_singleton] at hb
    have hfailed : Live req s addr (board req (u.fail addr message)) := by
      have hrow : RowState.error ≠ .queued := by decide
      refine live_of_rows hrow ?_ (.inr ⟨message, rfl⟩) ?_
      · rw [State.fail, hrows, setRow_setRow]
      · rw [State.fail, hmessages]
    rcases hb with (hb | rfl) | hb
    · exact hlive b hb
    · exact hfailed
    · rw [hsteady'.shown b hb]
      exact hfailed
  · rw [boards_append, boards_append, hboards]
    refine getLast?_shown ?_
    rw [board_eq_of_core hsteady'.core_eq]
    cases hlast : (boards ending).getLast? with
    | none => rfl
    | some b => exact hsteady'.shown b (List.mem_of_getLast? hlast)

theorem says_updateDevice (o : World) (req : Request) (hostWifiInitial : Bool) (addr : String) (index : Nat) :
    Says (updateDevice o req hostWifiInitial addr index) fun s new answer t =>
      ∃ d, Turn req addr s new answer t d := by
  have hnever : ∀ s new ex t, ¬ (if currentOk s then Returns req addr s new (.error ex) t
      else GivesUp req addr s new (.error ex) t) := by
    intro s new ex t h
    split at h
    · cases h.1
    · cases h.1
  have htry := ((says_flash o req hostWifiInitial addr index).orExcept
    fun ex => says_failed o req addr index ex).andFinally (says_settle o addr index) hnever
  have hturn := says_modify_bind (g := fun s : State => {s with deviceState := setRow addr .running s.deviceState})
    (says_ask_bind (o := o) (c := .devices) fun known => says_modify_bind
      (g := fun s : State => {s with results := {s.results with devices := s.results.devices ++ [{
        addr := addr, expectedMac := String.ofList (expectedMacHex addr)
        groupId := lookupGroupIdForAddr addr known}]}})
      (says_modify_bind (g := fun s : State => {s with apOpened := false}) htry))
  refine hturn.mono fun s new answer t h => ?_
  obtain ⟨known, rest, rfl, first, mid, ending, rfl, htried, hsettle⟩ := h
  have hasked : ∀ {front u}, Steady req (board req (s.begin addr known))
      {s.begin addr known with apOpened := u.apOpened} front u →
      Steady req (board req (s.begin addr known)) {s.begin addr known with apOpened := u.apOpened}
        (⟨.devices, known⟩ :: front) u := by
    intro front u h
    have hfirst : ∀ s', Steady req (board req (s.begin addr known)) s' [⟨.devices, known⟩] s' :=
      fun s' => .silent rfl rfl
    exact (hfirst _).trans h
  rcases htried with ⟨a, rfl, htried⟩ | ⟨ex, flashing, u, failing, rfl, htried, hanswer, rfl, hshown⟩
  · obtain ⟨u, front, shown, rfl, hsteady, hflashes, -, hend⟩ := htried rfl
    rcases hend with ⟨-, rfl, hshown⟩ | ⟨hfalse, -⟩
    · obtain ⟨d, hd, -⟩ := (begun hsteady).1
      have hok : currentOk (u.succeed addr) = true := by
        simp [currentOk, State.succeed, hd]
      rw [if_pos hok] at hsettle
      exact turn_of_succeeded (hasked hsteady) hflashes hshown hsettle
    · exact absurd hfalse.symm Bool.false_ne_true
  · obtain ⟨u', front, shown, rfl, hsteady, hflashes, hopened, hend⟩ := htried rfl
    rcases hend with ⟨hok, -⟩ | ⟨-, rfl, rfl⟩
    · cases hok
    · obtain ⟨d, hd, -, -, hdok, -⟩ := (begun hsteady).1
      have hfalse : currentOk (u.fail addr ex.message) = false := by
        simp [currentOk, State.fail, hd, hdok]
      rw [hfalse, if_neg Bool.false_ne_true] at hsettle
      rw [List.append_nil]
      refine turn_of_failed (hasked hsteady) hflashes hopened hshown hsettle ?_
      rw [hanswer]
      cases req.stopOnError with
      | true => rfl
      | false => rfl

end RaceLink.Update
