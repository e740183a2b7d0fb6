import RaceLink.Update.Protocol

/-! The steps of a device's turn, and what each says to the node.

Most steps are plain: beside what they say to the node, they show the board as it is, and keep all of
the state but what they learn of the connection. -/
namespace RaceLink.Update
open Python Library Talk

/-! ### The record at hand -/

@[simp] theorem modifyLast_append (f : DevRes → DevRes) (ds : List DevRes) (d : DevRes) :
    modifyLast f (ds ++ [d]) = ds ++ [f d] := by
  simp [modifyLast]

theorem modifyLast_modifyLast (f g : DevRes → DevRes) (ds : List DevRes) :
    modifyLast g (modifyLast f ds) = modifyLast (g ∘ f) ds := by
  obtain rfl | ⟨front, d, rfl⟩ := List.eq_nil_or_concat' ds
  · rfl
  · simp

/-! ### Plain steps -/

/-- The state without what is learnt of the connection. -/
def core (s : State) : State :=
  {s with
    lastConnectedSsid := "", lastConnectedBssid := ""
    results := {s.results with
      hostWifi := {s.results.hostWifi with enabled := false}
      devices := modifyLast (fun d => {d with ssid := none, infoBefore := none}) s.results.devices}}

/-- A step from `s` to `t` while the board `v` is shown. -/
structure Steady (req : Request) (v : Board) (s : State) (new : Calls) (t : State) : Prop where
  core_eq : core t = core s
  shown : ∀ b ∈ boards new, b = v

/-- A plain step, whose answer and words to the node are as `R` says. -/
def Plain (req : Request) (v : Board) {α : Type} (R : Except Raised α → List Said → Prop) :
    Spec Call Answer Raised State α :=
  fun s new answer t => board req s = v → Steady req v s new t ∧ R answer (talk new)

/-- A plain step that is a phase. -/
abbrev InPhase (req : Request) (v : Board) (P : Phase) {α : Type} : Spec Call Answer Raised State α :=
  Plain req v fun answer said => P answer.toBool said

variable {req : Request} {v : Board} {P P' Q : Phase} {s t u : State} {new new' : Calls} {α β : Type}
  {R R' : Except Raised α → List Said → Prop}

theorem board_eq_of_core (h : core t = core s) : board req t = board req s := by
  have hrows := congrArg State.deviceState h
  have hmessages := congrArg State.deviceMessages h
  simp only [core] at hrows hmessages
  simp only [board, hrows, hmessages]

theorem Steady.trans (h : Steady req v s new t) (h' : Steady req v t new' u) :
    Steady req v s (new ++ new') u := by
  refine ⟨h'.core_eq.trans h.core_eq, fun b hb => ?_⟩
  rw [boards_append] at hb
  exact (List.mem_append.mp hb).elim (h.shown b) (h'.shown b)

theorem Steady.silent (hcore : core t = core s) (hboards : boards new = []) : Steady req v s new t :=
  ⟨hcore, by simp [hboards]⟩

theorem plain_mono {m : Step α} (h : Says m (Plain req v R)) (himp : ∀ answer said, R answer said → R' answer said) :
    Says m (Plain req v R') :=
  h.mono fun _ _ _ _ hm hv => ⟨(hm hv).1, himp _ _ (hm hv).2⟩

/-- Plain steps one after another. -/
theorem plain_seq {m : Step α} {f : α → Step β} {S : α → Except Raised β → List Said → Prop}
    (hm : Says m (Plain req v R)) (hf : ∀ a, Says (f a) (Plain req v (S a))) :
    Says (m >>= f) (Plain req v fun answer said => (∃ ex, answer = .error ex ∧ R (.error ex) said) ∨
      ∃ a first rest, said = first ++ rest ∧ R (.ok a) first ∧ S a answer rest) := by
  refine (hm.bind hf).mono fun s new answer t h hv => ?_
  rcases h with ⟨ex, rfl, h⟩ | ⟨a, first, mid, rest, rfl, hfirst, hrest⟩
  · obtain ⟨hsteady, hR⟩ := h hv
    exact ⟨hsteady, .inl ⟨ex, rfl, hR⟩⟩
  · obtain ⟨hsteady, hR⟩ := hfirst hv
    obtain ⟨hsteady', hS⟩ := hrest ((board_eq_of_core hsteady.core_eq).trans hv)
    exact ⟨hsteady.trans hsteady', .inr ⟨a, talk first, talk rest, talk_append .., hR, hS⟩⟩

/-- One phase after another. -/
theorem plain_bind {m : Step α} {f : α → Step β} (hm : Says m (InPhase req v P))
    (hf : ∀ a, Says (f a) (InPhase req v Q)) : Says (m >>= f) (InPhase req v (P.andThen Q)) := by
  refine plain_mono (plain_seq hm hf) fun answer said h => ?_
  rcases h with ⟨ex, rfl, hP⟩ | ⟨a, first, rest, rfl, hP, hQ⟩
  · exact .inl ⟨rfl, hP⟩
  · exact .inr ⟨first, rest, rfl, hP, hQ⟩

/-- A step without a word before a plain one. -/
theorem plain_skip_bind {m : Step β} {f : β → Step α} (hm : Says m (InPhase req v .skip))
    (hf : ∀ b, Says (f b) (Plain req v R)) : Says (m >>= f) (Plain req v R) := by
  refine plain_mono (plain_seq hm hf) fun answer said h => ?_
  rcases h with ⟨ex, -, hfalse, -⟩ | ⟨b, first, rest, rfl, ⟨-, rfl⟩, hR⟩
  · exact absurd hfalse Bool.false_ne_true
  · exact hR

/-- A step without a word after a plain one. -/
theorem plain_bind_skip {m : Step α} {f : α → Step β} (hm : Says m (InPhase req v P))
    (hf : ∀ a, Says (f a) (InPhase req v .skip)) : Says (m >>= f) (InPhase req v P) :=
  plain_mono (plain_bind hm hf) fun _ _ => Phase.andThen_skip

theorem plain_pure (a : α) (hR : R (.ok a) []) : Says (pure a : Step α) (Plain req v R) := by
  refine (says_pure a).mono fun s new answer t h _ => ?_
  obtain ⟨rfl, rfl, rfl⟩ := h
  exact ⟨.silent rfl rfl, hR⟩

theorem plain_raise (ex : Raised) (hR : R (.error ex) []) : Says (Action.raise ex : Step α) (Plain req v R) := by
  refine (says_raise ex).mono fun s new answer t h _ => ?_
  obtain ⟨rfl, rfl, rfl⟩ := h
  exact ⟨.silent rfl rfl, hR⟩

theorem plain_ofExcept (x : Except Raised α) (hR : R x []) :
    Says (Action.ofExcept x : Step α) (Plain req v R) := by
  refine (says_ofExcept x).mono fun s new answer t h _ => ?_
  obtain ⟨rfl, rfl, rfl⟩ := h
  exact ⟨.silent rfl rfl, hR⟩

/-- A change to what `core` leaves out. -/
theorem plain_modify {f : State → State} (hf : ∀ s, core (f s) = core s) :
    Says (Talk.modify f : Step Unit) (InPhase req v .skip) := by
  refine (says_modify f).mono fun s new answer t h _ => ?_
  obtain ⟨rfl, rfl, rfl⟩ := h
  exact ⟨.silent (hf s) rfl, rfl, rfl⟩

theorem plain_gets_bind {g : State → β} {f : β → Step α} (hf : ∀ b, Says (f b) (Plain req v R)) :
    Says (Talk.gets g >>= f) (Plain req v R) :=
  (says_gets_bind hf).mono fun _ _ _ _ h => h

/-- A call to another than the node and the screen. -/
theorem plain_ask {o : World} {c : Call} (hnode : c.toNode = false) (hboards : ∀ a, boards [⟨c, a⟩] = []) :
    Says (ask o c : Step (Answer c)) (InPhase req v .skip) := by
  refine (says_ask o c).mono fun s new answer t h _ => ?_
  obtain ⟨a, rfl, rfl, rfl⟩ := h
  refine ⟨.silent rfl (hboards a), rfl, ?_⟩
  simp [talk, hnode]

/-- A word to the node. -/
theorem plain_ask_node {o : World} {c : Call} {f : Answer c → Step α} (hnode : c.toNode = true)
    (hboards : ∀ a, boards [⟨c, a⟩] = []) (hf : ∀ a, Says (f a) (Plain req v fun answer said => R answer (⟨c, a⟩ :: said))) :
    Says (ask o c >>= f) (Plain req v R) := by
  refine (says_ask_bind hf).mono fun s new answer t h hv => ?_
  obtain ⟨a, rest, rfl, h⟩ := h
  obtain ⟨hsteady, hR⟩ := h hv
  have hasked : Steady req v s [⟨c, a⟩] s := .silent rfl (hboards a)
  refine ⟨hasked.trans hsteady, ?_⟩
  rwa [show talk (⟨c, a⟩ :: rest) = ⟨c, a⟩ :: talk rest from List.filter_cons_of_pos hnode]

/-- The board that is shown is the one at hand. -/
theorem plain_update {o : World} {shown : Meta} (hshown : ∀ b ∈ shown.board, b = v) :
    Says (ask o (.update shown) : Step Unit) (InPhase req v .skip) := by
  refine (says_ask o _).mono fun s new answer t h _ => ?_
  obtain ⟨a, rfl, rfl, rfl⟩ := h
  refine ⟨⟨rfl, fun b hb => hshown b ?_⟩, rfl, rfl⟩
  cases hboard : shown.board with
  | none => simp [boards, hboard] at hb
  | some b' =>
    simp only [boards, hboard, List.filterMap_cons, List.filterMap_nil, List.mem_singleton] at hb
    rw [hb]
    rfl

/-- A step that looks at the board first. -/
theorem plain_board_bind {f : Board → Step α} (hf : ∀ b, Says (f b) (Plain req b R)) :
    Says (Talk.gets (board req) >>= f) (Plain req v R) := by
  refine (says_gets_bind hf).mono fun s new answer t h hv => ?_
  subst hv
  exact h rfl

theorem plain_emit (o : World) (stage : Stage) (message addr : String) (index : Nat) (attempt : Option Nat) :
    Says (emit o req stage message addr index attempt) (InPhase req v .skip) :=
  plain_board_bind fun _ => plain_update fun _ hb => (Option.some.inj hb).symm

/-! ### The connection -/

section Steps
variable (o : World)

theorem plain_raising {x : Step (Except Raised β)} (hx : Says x (InPhase req v .skip)) :
    Says (raising x) (InPhase req v .silent) :=
  plain_skip_bind hx fun answer => plain_ofExcept answer rfl

theorem silent_bind {m : Step α} {f : α → Step β} (hm : Says m (InPhase req v .silent))
    (hf : ∀ a, Says (f a) (InPhase req v .silent)) : Says (m >>= f) (InPhase req v .silent) :=
  plain_mono (plain_bind hm hf) fun _ _ => Phase.silent_andThen_silent

theorem plain_setEnabled (enabled : Bool) : Says (setEnabled enabled) (InPhase req v .skip) :=
  plain_modify fun _ => rfl

/-- An exception that is handled by a step without a word. -/
theorem silent_orExcept {m : Step α} {handle : Raised → Step α} (hm : Says m (InPhase req v .silent))
    (hhandle : ∀ ex, Says (handle ex) (InPhase req v .silent)) :
    Says (Action.orExcept m handle) (InPhase req v .silent) := by
  refine (hm.orExcept hhandle).mono fun s new answer t h hv => ?_
  rcases h with ⟨a, rfl, h⟩ | ⟨ex, first, mid, rest, rfl, hfirst, hrest⟩
  · exact h hv
  · obtain ⟨hsteady, hsilent⟩ := hfirst hv
    obtain ⟨hsteady', hsilent'⟩ := hrest ((board_eq_of_core hsteady.core_eq).trans hv)
    refine ⟨hsteady.trans hsteady', ?_⟩
    show talk (first ++ rest) = []
    rw [talk_append, hsilent, hsilent', List.append_nil]

theorem silent_ensureWifiReady (req : Request) (v : Board) (hostWifiInitial : Bool) {base : Meta} (hbase : ∀ b ∈ base.board, b = v) :
    Says (ensureWifiReady o req.wifi req.hostWifiEnable hostWifiInitial base) (InPhase req v .silent) := by
  unfold ensureWifiReady
  split
  · refine plain_skip_bind (plain_update hbase) fun _ => ?_
    refine silent_bind (plain_raising (plain_ask rfl fun _ => rfl)) fun _ => ?_
    refine silent_bind (plain_raising (plain_ask rfl fun _ => rfl)) fun _ => ?_
    exact plain_skip_bind (plain_setEnabled true) fun _ => plain_pure true rfl
  · exact plain_pure false rfl

theorem silent_connectWledWifi (changed : Bool) {base : Meta} (avoid : String)
    (hbase : ∀ b ∈ base.board, b = v) :
    Says (connectWledWifi o req.wifi req.hostWifiEnable changed base avoid) (InPhase req v .silent) := by
  have hconnect : ∀ bssid, Says (raising (ask o (.connectAp req.wifi.ssids req.wifi.password req.wifi.iface bssid avoid)))
      (InPhase req v .silent) := fun _ => plain_raising (plain_ask rfl fun _ => rfl)
  refine plain_skip_bind (plain_update hbase) fun _ => silent_orExcept (hconnect _) fun ex => ?_
  split
  · refine plain_skip_bind (plain_update hbase) fun _ => ?_
    refine silent_bind (plain_raising (plain_ask rfl fun _ => rfl)) fun _ => ?_
    refine plain_skip_bind (plain_setEnabled true) fun _ => ?_
    refine silent_bind (plain_raising (plain_ask rfl fun _ => rfl)) fun _ => hconnect _
  · exact plain_raise ex rfl

/-! ### The turn up to the files -/

theorem plain_swallow {x : Step (Except Raised β)} (hx : Says x (InPhase req v .skip)) :
    Says (swallow x) (InPhase req v .skip) := plain_skip_bind hx fun _ => plain_pure () ⟨rfl, rfl⟩

theorem plain_modifyDevice {f : DevRes → DevRes}
    (hf : ∀ d, ({f d with ssid := none, infoBefore := none} : DevRes) = {d with ssid := none, infoBefore := none}) :
    Says (modifyDevice f) (InPhase req v .skip) := by
  refine plain_modify fun s => ?_
  simp only [core, modifyLast_modifyLast, Function.comp_def, hf]

/-- What one try, or several, say to a node to have its AP switched: the last answer counts. -/
def Switched (data0 : Nat) (addr : String) (tries : Nat) (answer : Except Raised Bool) (said : List Said) : Prop :=
  (∃ ex, recv3BytesFromAddr addr = .error ex ∧ said = [] ∧ (tries ≠ 0 → answer = .error ex)) ∨
    ∃ recv3 answers, recv3BytesFromAddr addr = .ok recv3 ∧ Tried (· = .ok false) tries answers ∧
      said = answers.map (apSaid data0 recv3) ∧ answer = answers.getLast?.getD (.ok false)

theorem plain_switchAp (stage : Stage) (text : String) (data0 : Nat) (addr : String) (index attempt : Nat) :
    Says (switchAp o req stage text data0 addr index attempt) (Plain req v (Switched data0 addr 1)) := by
  refine plain_skip_bind (plain_emit o stage _ addr index _) fun _ => ?_
  cases haddr : recv3BytesFromAddr addr with
  | error ex =>
    rw [Action.ofExcept_error_bind]
    exact plain_raise ex (.inl ⟨ex, haddr, rfl, fun _ => rfl⟩)
  | ok recv3 =>
    rw [Action.ofExcept_ok_bind]
    refine plain_ask_node rfl (fun _ => rfl) fun answer => plain_ofExcept answer ?_
    exact .inr ⟨recv3, [answer], haddr, .single answer fun _ => rfl, rfl, rfl⟩

/-- Several tries, of which each says what one does. -/
theorem plain_attempts {body : Nat → Step Bool} {data0 : Nat} {addr : String}
    (hbody : ∀ attempt, Says (body attempt) (Plain req v (Switched data0 addr 1))) (first n : Nat) :
    Says (Action.attempts body first n) (Plain req v (Switched data0 addr n)) := by
  induction n generalizing first with
  | zero =>
    refine plain_pure false ?_
    cases haddr : recv3BytesFromAddr addr with
    | error ex => exact .inl ⟨ex, haddr, rfl, fun h => absurd rfl h⟩
    | ok recv3 => exact .inr ⟨recv3, [], haddr, .done, rfl, rfl⟩
  | succ n ih =>
    refine plain_mono (plain_seq (hbody first) (S := fun ok answer said =>
      if ok then answer = .ok true ∧ said = [] else Switched data0 addr n answer said) fun ok => ?_) ?_
    · cases ok with
      | true => exact plain_pure true ⟨rfl, rfl⟩
      | false => exact ih (first + 1)
    · intro answer said h
      rcases h with ⟨ex, rfl, h⟩ | ⟨ok, once, rest, rfl, h, hrest⟩
      · rcases h with ⟨ex', haddr, rfl, hanswer⟩ | ⟨recv3, answers, haddr, htried, rfl, hanswer⟩
        · exact .inl ⟨ex', haddr, rfl, fun _ => hanswer Nat.one_ne_zero⟩
        · obtain ⟨a, rfl⟩ := htried.one
          obtain rfl : Except.error ex = a := hanswer
          exact .inr ⟨recv3, [_], haddr, .single _ (by intro h; cases h), rfl, rfl⟩
      · rcases h with ⟨ex', haddr, -, hanswer⟩ | ⟨recv3, answers, haddr, htried, rfl, hanswer⟩
        · cases hanswer Nat.one_ne_zero
        · obtain ⟨a, rfl⟩ := htried.one
          obtain rfl : Except.ok ok = a := hanswer
          cases ok with
          | true =>
            obtain ⟨rfl, rfl⟩ := hrest
            exact .inr ⟨recv3, [_], haddr, .single _ (by intro h; cases h), rfl, rfl⟩
          | false =>
            rcases hrest with ⟨ex', haddr', -⟩ | ⟨recv3', answers, haddr', htried', rfl, hanswer'⟩
            · rw [haddr] at haddr'
              cases haddr'
            · rw [haddr] at haddr'
              cases haddr'
              refine .inr ⟨recv3, .ok false :: answers, haddr, .miss rfl htried', rfl, ?_⟩
              rw [hanswer', List.getLast?_cons]
              rfl

theorem plain_orRaise {ok : Bool} {ex : Raised} {R : Except Raised Unit → List Said → Prop}
    (hok : ok = true → R (.ok ()) []) (hraise : ok = false → R (.error ex) []) :
    Says (orRaise ok ex) (Plain req v R) := by
  cases ok with
  | true => exact plain_pure () (hok rfl)
  | false => exact plain_raise ex (hraise rfl)

theorem plain_onlyIf {condition : Bool} {m : Step Unit} (hm : Says m (InPhase req v .skip)) :
    Says (onlyIf condition m) (InPhase req v .skip) := by
  cases condition with
  | true => exact hm
  | false => exact plain_pure () ⟨rfl, rfl⟩

theorem plain_enableAp (addr : String) (index : Nat) :
    Says (enableAp o req addr index) (InPhase req v (Opens addr)) := by
  have hclear : Says (onlyIf req.gatewayService (swallow (ask o (.clearIdentify addr)))) (InPhase req v .skip) :=
    plain_onlyIf (plain_swallow (plain_ask rfl fun _ => rfl))
  refine plain_skip_bind hclear fun _ => ?_
  refine plain_mono (plain_seq (plain_attempts (plain_switchAp o _ _ 1 addr index) 1 2)
    (S := fun ok answer said => answer.toBool = ok ∧ said = []) fun ok => ?_) ?_
  · refine plain_orRaise ?_ ?_
    · rintro rfl
      exact ⟨rfl, rfl⟩
    · rintro rfl
      exact ⟨rfl, rfl⟩
  · intro answer said h
    have hlast : ∀ o : Option (Except Raised Bool), o = some (.ok true) ↔ o.getD (.ok false) = .ok true := by
      intro o
      cases o with
      | none => simp
      | some a => simp
    rcases h with ⟨ex, rfl, h⟩ | ⟨ok, tried, rest, rfl, h, rfl, rfl⟩
    · rcases h with ⟨ex', haddr, rfl, -⟩ | ⟨recv3, answers, haddr, htried, rfl, hanswer⟩
      · exact .inl ⟨⟨ex', haddr⟩, rfl, rfl⟩
      · refine .inr ⟨answers, ⟨recv3, haddr, htried, rfl⟩, ?_⟩
        rw [decide_eq_false ((hlast _).not.mpr (by rw [← hanswer]; intro h; cases h))]
        rfl
    · rcases h with ⟨ex', -, -, hanswer⟩ | ⟨recv3, answers, haddr, htried, rfl, hanswer⟩
      · cases hanswer (by decide)
      · rw [List.append_nil]
        refine .inr ⟨answers, ⟨recv3, haddr, htried, rfl⟩, ?_⟩
        have hopen := hlast answers.getLast?
        rw [← hanswer, Except.ok.injEq] at hopen
        simp only [hopen, Bool.decide_eq_true]

/-- The AP is opened, and only then it counts as opened. -/
theorem says_openAp (req : Request) (v : Board) (addr : String) (index : Nat) :
    Says (openAp o req addr index) fun s new answer t => board req s = v → s.apOpened = false →
      Steady req v {s with apOpened := answer.toBool} new t ∧ Opens addr answer.toBool (talk new) := by
  refine ((plain_enableAp o (v := v) addr index).bind fun _ => says_modify _).mono ?_
  intro s new answer t h hv hclosed
  rcases h with ⟨ex, rfl, h⟩ | ⟨_, first, mid, rest, rfl, hfirst, rfl, rfl, rfl⟩
  · obtain ⟨hsteady, hopens⟩ := h hv
    have hs : ({s with apOpened := false} : State) = s := by rw [← hclosed]
    refine ⟨?_, hopens⟩
    show Steady req v {s with apOpened := false} new t
    rwa [hs]
  · obtain ⟨hsteady, hopens⟩ := hfirst hv
    rw [List.append_nil]
    refine ⟨⟨?_, hsteady.shown⟩, hopens⟩
    have hcore := congrArg (fun s : State => {s with apOpened := true}) hsteady.core_eq
    exact hcore

/-! ### At the node -/

theorem plain_noteBssid : Says (noteBssid o req) (InPhase req v .skip) := by
  refine plain_skip_bind (plain_ask rfl fun _ => rfl) fun answer => ?_
  cases answer with
  | ok bssid => exact plain_modify fun _ => rfl
  | error ex => exact plain_pure () ⟨rfl, rfl⟩

theorem plain_awaitNode (expectedMac addr : String) (index : Nat) :
    Says (awaitNode o req expectedMac addr index) (InPhase req v (Identifies req.baseUrl expectedMac)) := by
  have hask : Says (raising (ask o (.waitForExpectedNode req.baseUrl expectedMac))) (Plain req v fun answer said =>
      said = [⟨.waitForExpectedNode req.baseUrl expectedMac, answer⟩]) :=
    plain_ask_node rfl (fun _ => rfl) fun answer => plain_ofExcept answer rfl
  refine plain_skip_bind (plain_emit o _ _ _ _ _) fun _ => ?_
  refine plain_mono (plain_seq hask
    (S := fun info answer said => answer.toBool = !(info.getD []).isEmpty ∧ said = []) fun info => ?_) ?_
  · refine plain_bind_skip (P := fun ok said => ok = !(info.getD []).isEmpty ∧ said = [])
      (plain_orRaise ?_ ?_) fun _ => plain_modifyDevice fun _ => rfl
    · intro hok
      exact ⟨hok.symm, rfl⟩
    · intro hfail
      exact ⟨hfail.symm, rfl⟩
  · intro answer said h
    rcases h with ⟨ex, rfl, rfl⟩ | ⟨info, asked, rest, rfl, rfl, hok, rfl⟩
    · exact ⟨.error ex, rfl, rfl⟩
    · refine ⟨.ok info, rfl, ?_⟩
      rw [hok]
      cases info with
      | none => rfl
      | some info => rfl

theorem plain_reachNode (hostWifiInitial : Bool) (expectedMac addr : String) (index : Nat) :
    Says (reachNode o req hostWifiInitial expectedMac addr index)
      (InPhase req v (Phase.silent.andThen (Identifies req.baseUrl expectedMac))) := by
  refine plain_board_bind fun shown => plain_gets_bind fun changed => plain_gets_bind fun avoid => ?_
  refine plain_bind (silent_connectWledWifi o changed avoid fun b hb => (Option.some.inj hb).symm) fun matched => ?_
  refine plain_skip_bind (plain_noteBssid o) fun _ => ?_
  refine plain_skip_bind (plain_modify fun _ => rfl) fun _ => ?_
  exact plain_skip_bind (plain_modifyDevice fun _ => rfl) fun _ => plain_awaitNode o _ _ _

/-! ### The files -/

theorem plain_uploadFile (destName : String) (info : Option Upload) :
    Says (uploadFile o req destName info) (InPhase req v (SendsFile req.baseUrl destName info)) := by
  cases info with
  | none => exact plain_pure () ⟨rfl, rfl⟩
  | some info =>
    exact plain_ask_node rfl (fun _ => rfl) fun answer => plain_ofExcept answer ⟨answer, rfl, rfl⟩

/-- The answers of the tries that are left, and whether the last of them was good. -/
theorem plain_uploadFirmware (path addr : String) (index attempt left : Nat) (lastErr : Option Raised) :
    Says (uploadFirmware o req path addr index attempt left lastErr) (Plain req v fun answer said =>
      ∃ answers : List (Except Raised Unit), Tried MayPass left answers ∧
        said = answers.map (fun answer =>
          ⟨.wledUploadFirmware req.baseUrl path req.wifi.otaPassword req.skipValidation, answer⟩) ∧
        ∃ last, answer = .ok (decide (answers.getLast? = some (.ok ())), last)) := by
  induction left generalizing attempt lastErr with
  | zero => exact plain_pure _ ⟨[], .done, rfl, lastErr, rfl⟩
  | succ left ih =>
    refine plain_skip_bind (plain_emit o _ _ _ _ _) fun _ => ?_
    refine plain_ask_node rfl (fun _ => rfl) fun answer => ?_
    cases answer with
    | ok u => exact plain_pure _ ⟨[.ok ()], .last (by rintro ⟨ex, h, -⟩; cases h), rfl, none, rfl⟩
    | error ex =>
      show Says (if contains ex.text "HTTP 500" || contains ex.text "HTTP 503" then pure (false, some ex)
        else uploadFirmware o req path addr index (attempt + 1) left (some ex)) _
      split
      · next hfinal =>
        refine plain_pure _ ⟨[.error ex], .last ?_, rfl, some ex, rfl⟩
        rintro ⟨ex', h, h500, h503⟩
        cases h
        rw [h500, h503] at hfinal
        cases hfinal
      · next hpass =>
        refine plain_mono (ih (attempt + 1) (some ex)) ?_
        rintro answer said ⟨answers, htried, rfl, last, rfl⟩
        have hmiss : MayPass (.error ex) := ⟨ex, rfl, by simpa using hpass⟩
        refine ⟨.error ex :: answers, .miss hmiss htried, rfl, last, ?_⟩
        cases answers with
        | nil => rfl
        | cons a rest => rw [List.getLast?_cons_cons]

theorem plain_updateFirmware (addr : String) (index : Nat) :
    Says (updateFirmware o req addr index) (InPhase req v (SendsFirmware req)) := by
  unfold updateFirmware SendsFirmware
  cases req.fwInfo with
  | none => exact plain_pure () ⟨rfl, rfl⟩
  | some info =>
    refine plain_mono (plain_seq (plain_uploadFirmware o info.path addr index 1 req.retries none)
      (S := fun result answer said => answer.toBool = result.1 ∧ said = []) fun result => ?_) ?_
    · refine plain_orRaise ?_ ?_
      · intro hok
        exact ⟨hok.symm, rfl⟩
      · intro hfail
        exact ⟨hfail.symm, rfl⟩
    · intro answer said h
      rcases h with ⟨ex, -, _, _, _, _, h⟩ | ⟨result, first, rest, rfl, ⟨answers, htried, rfl, last, h⟩, hok, rfl⟩
      · cases h
      · cases h
        exact ⟨answers, htried, List.append_nil _, hok⟩

theorem plain_uploadAll (addr : String) (index : Nat) :
    Says (uploadAll o req addr index) (InPhase req v (Sends req)) :=
  plain_bind (plain_uploadFile o _ _) fun _ => plain_bind (plain_uploadFile o _ _) fun _ =>
    plain_updateFirmware o addr index

theorem plain_deliver (req : Request) (v : Board) (hostWifiInitial : Bool) (expectedMac addr : String) (index : Nat) :
    Says (deliver o req hostWifiInitial expectedMac addr index) (InPhase req v (Delivers req expectedMac)) :=
  plain_bind (plain_reachNode o _ _ _ _) fun _ => plain_uploadAll o _ _

end Steps

end RaceLink.Update
