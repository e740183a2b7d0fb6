import RaceLink.Pending.Expect

/-! What the slots of expected replies are good for, over any run of the threads.

A device is marked by the reader of the gateway that its request went over, and offline only if
it has not answered. Two things spoil that: an expectation that is stamped when its reply has
come already, and a reader that gets hold of another gateway's slot. In every run without them
(`Coherent`) each step is right. -/
namespace RaceLink.Pending
open Python Library Protocol Routing Domain Gateways Fleet

variable {ι γ : Type} {pending : List (Expect ι)} {e e' : Expect ι}

/-! ### What is to hold -/

section Claims
variable [DecidableEq ι] [DecidableEq γ] (request : ι → Request γ) (identMac : γ → Option String)

/-- **What a step of a reader is to do.** -/
structure StepRight (s : Slots ι γ) (act : Act ι γ) : Prop where
  /-- A device is marked offline only if it has not answered since the frame was written. -/
  offline : ∀ g e, act = .proceed g → s.reader g = .closing e →
    ∀ ev ∈ s.heard e.request, e.answeredBy ev = false
  /-- A match marks the device of the expectation, and none besides. -/
  online : ∀ g e ev, act = .proceed g → s.reader g = .matched e ev →
    (step request identMac s act).fleet = mark s.fleet e.dev true ∧
      ∀ d ∈ s.fleet.devices, d.addr ≠ e.dev → d ∈ (step request identMac s act).fleet.devices
  /-- The expectation is one of the gateway's own. -/
  own : ∀ g e, act = .proceed g → (s.reader g).expect = some e → (request e.request).gateway = g
  /-- A clear removes what was compared, and nothing else. -/
  clears : ∀ g e, act = .proceed g → s.reader g = .clearing e →
    ∀ e' ∈ s.pending, e' ∉ (step request identMac s act).pending → e' = e

/-- An expectation is in the slot of a gateway, or in the only one while the gateway has no MAC. -/
def Reaches (s : Slots ι γ) (g : γ) (e : Expect ι) : Prop :=
  e ∈ s.pending ∧ (e.gatewayId = identMac g ∨ identMac g = none ∧ s.pending = [e])

/-- An event of a gateway that settles an expectation. -/
def Act.Settles (g : γ) (e : Expect ι) : Act ι γ → Prop
  | .reply g' ev => g' = g ∧ ev.opc ≠ none ∧ e.answeredBy ev = true
  | .gatewayState g' stateByte => g' = g ∧ stateByte ≠ GATEWAY_STATE_RX_WINDOW
  | _ => False

/-- What keeps it right: an expectation is stamped before its reply comes, and the events of a
gateway settle what it reaches only if that is its own. -/
structure Coherent (s : Slots ι γ) (act : Act ι γ) : Prop where
  fresh : ∀ i e, act = .transmitted i → s.sending i = .written → expectation request identMac s i = some e →
    ∀ ev ∈ s.heard i, e.answeredBy ev = false
  own : ∀ g e, s.reader g = .idle → Reaches identMac s g e → act.Settles g e → (request e.request).gateway = g

/-- Before anything is sent. -/
structure Started (s : Slots ι γ) : Prop where
  pending : s.pending = []
  sending : ∀ i, s.sending i = .idle
  reader : ∀ g, s.reader g = .idle

end Claims

/-! ### The slots -/

theorem mem_popSlot {gatewayId : Option String} :
    e ∈ popSlot pending gatewayId ↔ e ∈ pending ∧ e.gatewayId ≠ gatewayId := by
  simp [popSlot]

/-- What is read is in the slot, or in the only one. -/
theorem readPendingExpect_some {gatewayId : Option String} (h : readPendingExpect pending gatewayId = some e) :
    e ∈ pending ∧ (e.gatewayId = gatewayId ∨ gatewayId = none ∧ pending = [e]) := by
  unfold readPendingExpect at h
  split at h
  · next e' hfind =>
    cases h
    obtain ⟨hmem, hkey⟩ := findKey_some hfind
    exact ⟨hmem, .inl hkey⟩
  · split at h
    · next hone =>
      obtain ⟨x, hx⟩ := List.length_eq_one_iff.mp hone.2
      rw [hx] at h ⊢
      cases h
      exact ⟨List.mem_singleton_self _, .inr ⟨hone.1, rfl⟩⟩
    · cases h

theorem readPendingExpect_of_mem (hnodup : (pending.map (·.gatewayId)).Nodup) (h : e ∈ pending) :
    readPendingExpect pending e.gatewayId = some e := by
  rw [readPendingExpect, findKey_of_mem hnodup h]

section Clearing
variable [DecidableEq ι]

theorem mem_clearPendingExpectIf (h : e' ∈ clearPendingExpectIf pending e) : e' ∈ pending := by
  unfold clearPendingExpectIf at h
  split at h
  · exact (mem_popSlot.mp h).1
  · exact h

/-- A clear leaves the expectation in no slot. -/
theorem not_mem_clearPendingExpectIf (hnodup : (pending.map (·.gatewayId)).Nodup) :
    e ∉ clearPendingExpectIf pending e := by
  intro h
  have hmem := mem_clearPendingExpectIf h
  rw [clearPendingExpectIf, if_pos (findKey_of_mem hnodup hmem)] at h
  exact (mem_popSlot.mp h).2 rfl

/-- A clear removes only the expectation that it was given. -/
theorem clearPendingExpectIf_removes (hnodup : (pending.map (·.gatewayId)).Nodup) (hmem : e' ∈ pending)
    (hgone : e' ∉ clearPendingExpectIf pending e) : e' = e := by
  unfold clearPendingExpectIf at hgone
  split at hgone
  · next hfind =>
    have hkey : e'.gatewayId = e.gatewayId := by
      by_contra hne
      exact hgone (mem_popSlot.mpr ⟨hmem, hne⟩)
    exact key_inj hnodup hmem (findKey_some hfind).1 hkey
  · exact absurd hmem hgone

end Clearing

theorem expectationOf_fields {fleet : State} {gatewayId : Option String} {opc : Int} {recv3 : Bytes} {i : ι}
    (h : expectationOf fleet gatewayId opc recv3 i = some e) : e.gatewayId = gatewayId ∧ e.request = i := by
  unfold expectationOf at h
  dsimp only at h
  split at h
  · cases h
  · split at h
    · cases h
    · split at h
      · cases h
      · split at h
        · cases h
        · obtain ⟨dev, -, rfl⟩ := Option.map_eq_some_iff.mp h
          exact ⟨rfl, rfl⟩

/-! ### The invariant -/

section Runs
variable (request : ι → Request γ) (identMac : γ → Option String)

/-- An expectation was stamped for a request. -/
def Stamped (s : Slots ι γ) (e : Expect ι) : Prop :=
  s.sending e.request = .stamped ∧ e.gatewayId = identMac (request e.request).gateway

/-- It has not been answered since its frame was written. -/
def Unanswered (s : Slots ι γ) (e : Expect ι) : Prop := ∀ ev ∈ s.heard e.request, e.answeredBy ev = false

/-- Who is in a slot has not answered, or the reader of its gateway is at it. -/
structure Tracked (s : Slots ι γ) : Prop where
  nodup : (s.pending.map (·.gatewayId)).Nodup
  stamped : ∀ e ∈ s.pending, Stamped request identMac s e
  waiting : ∀ e ∈ s.pending, Unanswered s e ∨ (s.reader (request e.request).gateway).expect = some e
  own : ∀ g e, (s.reader g).expect = some e → (request e.request).gateway = g
  reading : ∀ g e, (s.reader g).expect = some e → s.sending e.request = .stamped
  closing : ∀ g e, s.reader g = .closing e → Unanswered s e

variable {request identMac} {s : Slots ι γ} {g : γ} {i : ι} {ev : ReplyEvent}

theorem Started.tracked (h : Started s) : Tracked request identMac s := by
  have hnobody : ∀ g e, (s.reader g).expect ≠ some e := by
    intro g e
    rw [h.reader g]
    nofun
  refine ⟨?_, ?_, ?_, fun g e he => absurd he (hnobody g e), fun g e he => absurd he (hnobody g e), ?_⟩
  · rw [h.pending]
    exact List.nodup_nil
  · simp [h.pending]
  · simp [h.pending]
  · intro g e he
    rw [h.reader g] at he
    cases he

/-- An idle reader is at no expectation of its gateway. -/
theorem Tracked.unanswered (h : Tracked request identMac s) (hidle : s.reader g = .idle) (he : e ∈ s.pending)
    (hg : (request e.request).gateway = g) : Unanswered s e := by
  refine (h.waiting e he).resolve_right fun hexpect => ?_
  rw [hg, hidle] at hexpect
  cases hexpect

/-- Some slots are emptied. -/
theorem Tracked.emptied (h : Tracked request identMac s) {pending : List (Expect ι)}
    (hsub : pending.Sublist s.pending) : Tracked request identMac {s with pending} where
  nodup := h.nodup.sublist (hsub.map _)
  stamped e he := h.stamped e (hsub.subset he)
  waiting e he := h.waiting e (hsub.subset he)
  own := h.own
  reading := h.reading
  closing := h.closing

theorem Tracked.stamp (h : Tracked request identMac s) (he : Stamped request identMac s e) (hun : Unanswered s e) :
    Tracked request identMac {s with pending := setPendingExpect s.pending e} := by
  refine ⟨putKey_nodup h.nodup, fun e' he' => ?_, fun e' he' => ?_, h.own, h.reading, h.closing⟩
  · rcases mem_putKey he' with rfl | he'
    · exact he
    · exact h.stamped e' he'
  · rcases mem_putKey he' with rfl | he'
    · exact .inl hun
    · exact h.waiting e' he'

section Sending
variable [DecidableEq ι]

theorem Tracked.write (h : Tracked request identMac s) (hidle : s.sending i = .idle) :
    Tracked request identMac {s with sending := Function.update s.sending i .written
                                     heard := Function.update s.heard i []} := by
  have hother : ∀ e : Expect ι, s.sending e.request = .stamped → e.request ≠ i := by
    rintro e he rfl
    rw [hidle] at he
    cases he
  have hsending : ∀ e : Expect ι, s.sending e.request = .stamped →
      Function.update s.sending i .written e.request = .stamped := fun e he => by
    rwa [Function.update_of_ne (hother e he)]
  have hheard : ∀ e : Expect ι, s.sending e.request = .stamped →
      Function.update s.heard i [] e.request = s.heard e.request := fun e he =>
    Function.update_of_ne (hother e he) ..
  refine ⟨h.nodup, fun e he => ?_, fun e he => ?_, h.own, fun g e he => hsending e (h.reading g e he),
    fun g e he => ?_⟩
  · obtain ⟨hstamped, hkey⟩ := h.stamped e he
    exact ⟨hsending e hstamped, hkey⟩
  · refine (h.waiting e he).imp_left fun hun => ?_
    unfold Unanswered
    dsimp only
    rw [hheard e (h.stamped e he).1]
    exact hun
  · unfold Unanswered
    dsimp only
    rw [hheard e (h.reading g e (by rw [he]; rfl))]
    exact h.closing g e he

/-- A request is through with its TX event. -/
theorem Tracked.sent (h : Tracked request identMac s) (i : ι) :
    Tracked request identMac {s with sending := Function.update s.sending i .stamped} := by
  have hsending : ∀ j, s.sending j = .stamped → Function.update s.sending i .stamped j = .stamped := by
    intro j hj
    by_cases hji : j = i
    · rw [hji, Function.update_self]
    · rwa [Function.update_of_ne hji]
  refine ⟨h.nodup, fun e he => ?_, h.waiting, h.own, fun g e he => hsending _ (h.reading g e he), h.closing⟩
  obtain ⟨hstamped, hkey⟩ := h.stamped e he
  exact ⟨hsending _ hstamped, hkey⟩

end Sending

section Reading
variable [DecidableEq γ]

/-- The reader of a gateway takes a turn: what it is at is the gateway's own, and it is at every
expectation of the gateway that has been answered. -/
theorem Tracked.turn (h : Tracked request identMac s) {r : Reader ι} {heard : ι → List ReplyEvent}
    (hat : ∀ e, r.expect = some e → s.sending e.request = .stamped ∧ (request e.request).gateway = g)
    (hwaiting : ∀ e ∈ s.pending, (request e.request).gateway = g →
      (∀ ev ∈ heard e.request, e.answeredBy ev = false) ∨ r.expect = some e)
    (hclosing : ∀ e, r = .closing e → ∀ ev ∈ heard e.request, e.answeredBy ev = false)
    (hother : ∀ i, (request i).gateway ≠ g → heard i = s.heard i) :
    Tracked request identMac {s with heard, reader := Function.update s.reader g r} := by
  refine ⟨h.nodup, h.stamped, fun e he => ?_, fun g' e he => ?_, fun g' e he => ?_, fun g' e he => ?_⟩
  · unfold Unanswered
    dsimp only
    by_cases hg : (request e.request).gateway = g
    · rw [hg, Function.update_self]
      exact hwaiting e he hg
    · rw [hother _ hg, Function.update_of_ne hg]
      exact h.waiting e he
  · dsimp only at he
    by_cases hg : g' = g
    · rw [hg, Function.update_self] at he
      rw [hg]
      exact (hat e he).2
    · rw [Function.update_of_ne hg] at he
      exact h.own g' e he
  · dsimp only at he
    by_cases hg : g' = g
    · rw [hg, Function.update_self] at he
      exact (hat e he).1
    · rw [Function.update_of_ne hg] at he
      exact h.reading g' e he
  · unfold Unanswered
    dsimp only at he ⊢
    by_cases hg : g' = g
    · rw [hg, Function.update_self] at he
      exact hclosing e he
    · rw [Function.update_of_ne hg] at he
      have hgateway := h.own g' e (by rw [he]; rfl)
      rw [hother _ (hgateway ▸ hg)]
      exact h.closing g' e he

theorem hearing_own (hg : (request i).gateway = g) (hi : s.sending i ≠ .idle) :
    hearing request s g ev i = s.heard i ++ [ev] := if_pos ⟨hg, hi⟩

theorem hearing_other (hg : (request i).gateway ≠ g) : hearing request s g ev i = s.heard i :=
  if_neg fun h => hg h.1

/-- A reply that settles only what is the gateway's own. -/
theorem Tracked.reply (h : Tracked request identMac s) (hidle : s.reader g = .idle)
    (hown : ∀ e, Reaches identMac s g e → e.answeredBy ev = true → (request e.request).gateway = g) :
    Tracked request identMac {s with heard := hearing request s g ev
                                     reader := Function.update s.reader g (tryMatch identMac s g ev)} := by
  refine h.turn (fun e he => ?_) (fun e he hg => ?_) (fun e he => ?_) fun i hg => hearing_other hg
  · unfold tryMatch at he
    split at he
    · cases he
    · next p hp =>
      split at he
      · next hanswers =>
        cases he
        have hreaches := readPendingExpect_some hp
        exact ⟨(h.stamped e hreaches.1).1, hown e hreaches hanswers⟩
      · cases he
  · obtain ⟨hstamped, hkey⟩ := h.stamped e he
    rw [hearing_own hg (by rw [hstamped]; nofun)]
    cases hanswers : e.answeredBy ev with
    | false =>
      refine .inl (List.forall_mem_append.mpr ⟨h.unanswered hidle he hg, ?_⟩)
      exact List.forall_mem_singleton.mpr hanswers
    | true =>
      -- The slot of the gateway is read, so the match is found.
      right
      rw [tryMatch, ← hg, ← hkey, readPendingExpect_of_mem h.nodup he]
      dsimp only
      rw [if_pos hanswers]
      rfl
  · unfold tryMatch at he
    split at he
    · cases he
    · split at he <;> cases he

/-- A window that closes on nothing but the gateway's own. -/
theorem Tracked.gatewayState (h : Tracked request identMac s) (hidle : s.reader g = .idle)
    (hown : ∀ e, Reaches identMac s g e → (request e.request).gateway = g) :
    Tracked request identMac {s with reader := Function.update s.reader g (windowClosed identMac s g)} := by
  have hclosed : ∀ e, (windowClosed identMac s g).expect = some e →
      e ∈ s.pending ∧ (request e.request).gateway = g := by
    intro e he
    unfold windowClosed at he
    split at he
    · cases he
    · next p hp =>
      cases he
      have hreaches := readPendingExpect_some hp
      exact ⟨hreaches.1, hown e hreaches⟩
  refine h.turn (fun e he => ?_) (fun e he hg => .inl (h.unanswered hidle he hg)) (fun e he => ?_) fun _ _ => rfl
  · obtain ⟨hmem, hgateway⟩ := hclosed e he
    exact ⟨(h.stamped e hmem).1, hgateway⟩
  · obtain ⟨hmem, hgateway⟩ := hclosed e (by rw [he]; rfl)
    exact h.unanswered hidle hmem hgateway

/-- The reader is still at the same expectation, to clear it. -/
theorem Tracked.marked (h : Tracked request identMac s) (hat : (s.reader g).expect = some e) (fleet : State) :
    Tracked request identMac {s with fleet, reader := Function.update s.reader g (.clearing e)} := by
  have hturn : Tracked request identMac {s with reader := Function.update s.reader g (.clearing e)} := by
    refine h.turn (fun e' he' => ?_) (fun e' he' hg => ?_) (fun e' he' => by cases he') fun _ _ => rfl
    · cases he'
      exact ⟨h.reading g e hat, h.own g e hat⟩
    · refine (h.waiting e' he').imp_right fun hexpect => ?_
      rw [hg, hat] at hexpect
      exact hexpect
  exact ⟨hturn.nodup, hturn.stamped, hturn.waiting, hturn.own, hturn.reading, hturn.closing⟩

end Reading

variable [DecidableEq ι] [DecidableEq γ]

theorem Tracked.cleared (h : Tracked request identMac s) (hat : s.reader g = .clearing e) :
    Tracked request identMac {s with pending := clearPendingExpectIf s.pending e
                                     reader := Function.update s.reader g .idle} := by
  have hsub : (clearPendingExpectIf s.pending e).Sublist s.pending := by
    unfold clearPendingExpectIf
    split
    · exact List.filter_sublist
    · exact .refl _
  refine (h.emptied hsub).turn (fun e' he' => by cases he') (fun e' he' hg => .inl ?_)
    (fun e' he' => by cases he') fun _ _ => rfl
  refine (h.waiting e' (hsub.subset he')).resolve_right fun hexpect => ?_
  rw [hg, hat] at hexpect
  cases hexpect
  exact not_mem_clearPendingExpectIf h.nodup he'

theorem Tracked.proceed (h : Tracked request identMac s) (g : γ) :
    Tracked request identMac (Pending.proceed s g) := by
  unfold Pending.proceed
  split
  · exact h
  · next e ev hat => exact h.marked (by rw [hat]; rfl) _
  · next e hat => exact h.marked (by rw [hat]; rfl) _
  · next e hat => exact h.cleared hat

/-- **A coherent step keeps track.** -/
theorem Tracked.step (h : Tracked request identMac s) {act : Act ι γ} (ho : Coherent request identMac s act) :
    Tracked request identMac (Pending.step request identMac s act) := by
  cases act with
  | write i =>
    rw [Pending.step]
    split
    · next hidle => exact h.write hidle
    · exact h
  | transmitted i =>
    rw [Pending.step]
    split
    · next hwritten =>
      dsimp only
      cases he : expectation request identMac s i with
      | none => exact h.sent i
      | some e =>
        obtain ⟨hkey, hrequest⟩ := expectationOf_fields he
        refine (h.sent i).stamp ⟨?_, ?_⟩ ?_
        · rw [hrequest]
          exact Function.update_self ..
        · rw [hkey, hrequest]
        · unfold Unanswered
          rw [hrequest]
          exact ho.fresh i e rfl hwritten he
    · exact h
  | reply g ev =>
    rw [Pending.step]
    split
    · next hturn =>
      refine h.reply hturn.1 fun e hreaches hanswers => ?_
      exact ho.own g e hturn.1 hreaches ⟨rfl, hturn.2, hanswers⟩
    · exact h
  | gatewayState g stateByte =>
    rw [Pending.step]
    split
    · next hturn =>
      exact h.gatewayState hturn.1 fun e hreaches => ho.own g e hturn.1 hreaches ⟨rfl, hturn.2⟩
    · exact h
  | proceed g => exact h.proceed g
  | clear gatewayId =>
    refine h.emptied ?_
    cases gatewayId with
    | none => exact List.nil_sublist _
    | some gatewayId => exact List.filter_sublist
  | aside fleet => exact ⟨h.nodup, h.stamped, h.waiting, h.own, h.reading, h.closing⟩

/-! ### The steps -/

/-- A mark leaves the other devices. -/
theorem mem_mark {fleet : State} {addr : String} {online : Bool} {d : DeviceRecord} (hd : d ∈ fleet.devices)
    (hne : d.addr ≠ addr) : d ∈ (mark fleet addr online).devices :=
  mem_updateKey.mpr ⟨d, hd, if_neg hne⟩

theorem Tracked.right (h : Tracked request identMac s) (act : Act ι γ) : StepRight request identMac s act where
  offline g e _ he := h.closing g e he
  online g e ev hact he := by
    have hfleet : (Pending.step request identMac s act).fleet = mark s.fleet e.dev true := by
      rw [hact, Pending.step, Pending.proceed, he]
    rw [hfleet]
    exact ⟨rfl, fun d hd hne => mem_mark hd hne⟩
  own g e _ he := h.own g e he
  clears g e hact he e' hmem hgone := by
    rw [hact, Pending.step, Pending.proceed, he] at hgone
    exact clearPendingExpectIf_removes h.nodup hmem hgone

/-- **In a coherent run every step of a reader is right.** -/
theorem expectations_right (hs : Started s) {acts : List (Act ι γ)}
    (h : Along (step request identMac) (Coherent request identMac) s acts) :
    Along (step request identMac) (StepRight request identMac) s acts :=
  along_of_invariant (I := Tracked request identMac) (fun _ _ ht ho => ht.step ho) (fun _ act ht _ => ht.right act)
    hs.tracked h

end Runs

/-! ### Three runs -/

/-- A host with one device, and the request that it set its group. -/
def oneDevice : State where
  networks := []
  devices := [createDevice 10 { addr := "AABBCC445566", name := "Start" } []]
  groups := []
  transports := []
  records := []
  saves := 0

def setGroup (_ : Unit) : Request Bool := ⟨true, 2, [0x44, 0x55, 0x66]⟩

/-- Its gateway has told its MAC; there is another one that has not. -/
def gatewayMac : Bool → Option String
  | true => some "AABBCCDDEE01"
  | false => none

def quiet : Slots Unit Bool := ⟨[], oneDevice, fun _ => .idle, fun _ => .idle, fun _ => []⟩

theorem quiet_started : Started quiet := ⟨rfl, fun _ => rfl, fun _ => rfl⟩

/-- The ACK of the device. -/
def groupAck : ReplyEvent := ⟨some "AABBCCDDEE01", some [0x44, 0x55, 0x66], some 126, some 2, []⟩

/-- The ACK comes when it is expected. -/
theorem expectations_right_ack : Along (step setGroup gatewayMac) (StepRight setGroup gatewayMac) quiet
    [.write (), .transmitted (), .gatewayState true 2, .reply true groupAck, .proceed true, .proceed true,
      .gatewayState true 0] := by
  have hidle : ∀ {act : Act Unit Bool} {s : Slots Unit Bool}, (∀ g e, ¬ act.Settles g e) →
      ∀ g e, s.reader g = .idle → Reaches gatewayMac s g e → act.Settles g e →
        (setGroup e.request).gateway = g := fun hne g e _ _ h => absurd h (hne g e)
  refine expectations_right quiet_started ⟨⟨nofun, hidle fun _ _ => id⟩, ⟨?_, hidle fun _ _ => id⟩,
    ⟨nofun, hidle fun _ _ h => h.2 rfl⟩, ⟨nofun, fun _ _ _ _ h => h.1⟩, ⟨nofun, hidle fun _ _ => id⟩,
    ⟨nofun, hidle fun _ _ => id⟩, ⟨nofun, fun _ _ _ _ h => h.1⟩, trivial⟩
  intro i e _ _ _ ev hev
  exact absurd hev List.not_mem_nil

/-- The ACK comes before the expectation is stamped, and the device is marked offline; the window
of the gateway without a MAC closes, and the device is marked offline for it. -/
theorem expectations_misled :
    ¬ Along (step setGroup gatewayMac) (StepRight setGroup gatewayMac) quiet
      [.write (), .reply true groupAck, .transmitted (), .gatewayState true 0, .proceed true] ∧
    ¬ Along (step setGroup gatewayMac) (StepRight setGroup gatewayMac) quiet
      [.write (), .transmitted (), .gatewayState false 0, .proceed false] := by
  constructor
  · intro h
    obtain ⟨-, -, -, -, hlast, -⟩ := h
    have := hlast.offline true ⟨"AABBCC445566", 2, "445566", some "AABBCCDDEE01", ()⟩ rfl (by decide +kernel)
      groupAck (by decide +kernel)
    exact absurd this (by decide +kernel)
  · intro h
    obtain ⟨-, -, -, hlast, -⟩ := h
    have := hlast.own false ⟨"AABBCC445566", 2, "445566", some "AABBCCDDEE01", ()⟩ rfl (by decide +kernel)
    exact absurd this (by decide)

end RaceLink.Pending
