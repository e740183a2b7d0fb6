import RaceLink.Pending.ConfigMirror

/-! Every run of configs and ACKs: which pair waits for which device, and when an ACK applies the send
that it answers. -/
namespace RaceLink.Pending
open Python Library Domain Routing

/-! ### One ACK -/

section Ack
variable {c : Controller} {ev : AckEvent} {addr : String} {f : ConfigDevice → ConfigDevice}

theorem change_bytes (hf : ∀ d, (f d).addr = d.addr ∧ (f d).configByte = d.configByte) :
    (c.change addr f).configBytes = c.configBytes := by
  rw [Controller.configBytes, Controller.change, updateKey, List.map_map]
  refine List.map_congr_left fun d _ => ?_
  rw [Function.comp_apply]
  split
  · rw [(hf d).1, (hf d).2]
  · rfl

theorem applyConfigUpdate_addr (option data0 : Nat) (d : ConfigDevice) :
    (applyConfigUpdate option data0 d).addr = d.addr := by
  unfold applyConfigUpdate
  split
  · rfl
  · dsimp only
    split
    · rfl
    · rfl

/-- The new config byte comes from the old one alone. -/
theorem applyConfigUpdate_byte {d d' : ConfigDevice} (option data0 : Nat) (h : d.configByte = d'.configByte) :
    (applyConfigUpdate option data0 d).configByte = (applyConfigUpdate option data0 d').configByte := by
  unfold applyConfigUpdate
  cases configBit option with
  | none => exact h
  | some bit =>
    dsimp only
    split
    · rw [h]
    · rw [h]

/-- A change that does not touch the bytes does not matter to an update after it. -/
theorem update_after_change {a : String} (hf : ∀ d, (f d).addr = d.addr ∧ (f d).configByte = d.configByte)
    (option data0 : Nat) :
    ((c.change a f).change addr (applyConfigUpdate option data0)).configBytes =
      (c.change addr (applyConfigUpdate option data0)).configBytes := by
  simp only [Controller.configBytes, Controller.change, updateKey, List.map_map]
  refine List.map_congr_left fun d _ => ?_
  simp only [Function.comp_apply]
  have hsame : (if d.addr = a then f d else d).addr = d.addr ∧
      (if d.addr = a then f d else d).configByte = d.configByte := by
    split
    · exact hf d
    · exact ⟨rfl, rfl⟩
  generalize (if d.addr = a then f d else d) = d' at hsame ⊢
  obtain ⟨haddr, hbyte⟩ := hsame
  by_cases h : d.addr = addr
  · rw [if_pos h, if_pos (haddr.trans h), applyConfigUpdate_addr, applyConfigUpdate_addr, haddr,
      applyConfigUpdate_byte option data0 hbyte]
  · rw [if_neg h, if_neg fun hd => h (haddr.symm.trans hd), haddr, hbyte]

/-- Nothing of the pairs changes. -/
structure Idle (c c' : Controller) : Prop extends Air.Untouched c c' where
  pending : c'.pendingConfig = c.pendingConfig

theorem change_idle (hf : ∀ d, (f d).addr = d.addr ∧ (f d).configByte = d.configByte) : Idle c (c.change addr f) :=
  ⟨⟨rfl, change_bytes hf⟩, rfl⟩

theorem idle_refl (c : Controller) : Idle c c := ⟨⟨rfl, rfl⟩, rfl⟩

/-- An ACK that is no OK to a config, or finds no device or no pair, applies nothing. -/
theorem handleAckEvent_idle (h : ev.ackOf = some OPC_CONFIG → ev.ackStatus = some 0 →
      ∀ dev, c.getDeviceFromAddress ev.sender3Hex = some dev → c.pendingConfig ev.sender3Hex = none) :
    Idle c (handleAckEvent c ev) := by
  unfold handleAckEvent
  cases hdev : c.getDeviceFromAddress ev.sender3Hex with
  | none => exact idle_refl c
  | some dev =>
    cases hof : ev.ackOf with
    | none => exact idle_refl c
    | some ackOf =>
      cases hstatus : ev.ackStatus with
      | none => exact idle_refl c
      | some ackStatus =>
        dsimp only
        have hupdate : Idle c (c.change dev.addr (ackUpdate ackOf ackStatus ev.ackSeq)) :=
          change_idle fun _ => ⟨rfl, rfl⟩
        split
        · next hok =>
          have hnone := h (by rw [hof, hok.1]) (by rw [hstatus, hok.2]) dev hdev
          have hquiet : applyPending (c.change dev.addr (ackUpdate ackOf ackStatus ev.ackSeq)) ev.sender3Hex dev.addr =
              c.change dev.addr (ackUpdate ackOf ackStatus ev.ackSeq) := by
            unfold applyPending
            rw [hupdate.pending, hnone]
          rw [hquiet]
          exact hupdate
        · exact hupdate

/-- What an OK to a config leaves, if there are a device and a pair. -/
structure Takes (c c' : Controller) (sender3Hex addr : String) (pending : PendingConfig) : Prop where
  pendingConfig : c'.pendingConfig = Function.update c.pendingConfig sender3Hex none
  applied : c'.applied = c.applied ++ [⟨addr, pending.sent⟩]
  bytes : c'.configBytes = (c.change addr (applyConfigUpdate pending.option pending.data0)).configBytes

theorem handleAckEvent_takes {dev : Device} {pending : PendingConfig} (hof : ev.ackOf = some OPC_CONFIG)
    (hstatus : ev.ackStatus = some 0) (hdev : c.getDeviceFromAddress ev.sender3Hex = some dev)
    (hpending : c.pendingConfig ev.sender3Hex = some pending) :
    Takes c (handleAckEvent c ev) ev.sender3Hex dev.addr pending := by
  have hupdate : ∀ d, (ackUpdate OPC_CONFIG 0 ev.ackSeq d).addr = d.addr ∧
      (ackUpdate OPC_CONFIG 0 ev.ackSeq d).configByte = d.configByte := fun _ => ⟨rfl, rfl⟩
  have hsame : (c.change dev.addr (ackUpdate OPC_CONFIG 0 ev.ackSeq)).pendingConfig ev.sender3Hex = some pending := hpending
  have heq : handleAckEvent c ev =
      applyPending (c.change dev.addr (ackUpdate OPC_CONFIG 0 ev.ackSeq)) ev.sender3Hex dev.addr := by
    simp only [handleAckEvent, hdev, hof, hstatus, and_self, if_true]
  rw [heq, applyPending, hsame]
  exact ⟨rfl, rfl, update_after_change hupdate pending.option pending.data0⟩

end Ack

/-! ### The pairs that wait -/

namespace Air

/-- A pair that waits is that of the send that went last to its three bytes, and is not applied yet. -/
structure Waits (w : Air) (recv3Hex : String) (pending : PendingConfig) : Prop where
  stashed : recv3Hex ≠ "" ∧ recv3Hex ≠ "FFFFFF"
  newest : w.Newest pending.sent recv3Hex
  waiting : pending.sent ∉ w.controller.applied.map (·.sent)
  send : ∃ send, w.sends[pending.sent]? = some send ∧ send.recv3Hex = recv3Hex ∧
    pending.option = (send.option % 256).toNat ∧ pending.data0 = (send.data0 % 256).toNat

/-- What holds in every run. -/
structure Inv (w : Air) : Prop where
  pending : ∀ recv3Hex pending, w.controller.pendingConfig recv3Hex = some pending → w.Waits recv3Hex pending
  acks : ∀ ack ∈ w.acks, w.To ack.sent ack.mac ∧ (ack.status = 0 → (ack.mac, ack.sent) ∈ w.accepted)
  applied : ∀ x ∈ w.controller.applied, x.sent < w.sends.length

section Step
variable {w : Air}

theorem inv_quiet (devices : List ConfigDevice) : Inv (quiet devices) := by
  refine ⟨fun recv3Hex pending h => ?_, fun ack h => ?_, fun x h => ?_⟩
  · cases h
  · cases h
  · cases h

/-- What a step of the air keeps. -/
theorem Inv.air (h : w.Inv) {frames : List Nat} {acks : List ConfigAck} {accepted : List (Bytes × Nat)}
    (hacks : ∀ ack ∈ acks, w.To ack.sent ack.mac ∧ (ack.status = 0 → (ack.mac, ack.sent) ∈ accepted)) :
    Inv ⟨w.controller, w.sends, frames, acks, accepted⟩ := by
  refine ⟨fun recv3Hex pending hp => ?_, hacks, h.applied⟩
  have hold := h.pending recv3Hex pending hp
  exact ⟨hold.stashed, hold.newest, hold.waiting, hold.send⟩

/-- What an idle step of the host keeps. -/
theorem Inv.idle (h : w.Inv) {c' : Controller} (hidle : Idle w.controller c') : Inv {w with controller := c'} := by
  refine ⟨fun recv3Hex pending hp => ?_, h.acks, fun x hx => ?_⟩
  · have hold := h.pending recv3Hex pending (hidle.pending ▸ hp)
    exact ⟨hold.stashed, hold.newest, hidle.applied.symm ▸ hold.waiting, hold.send⟩
  · exact h.applied x (hidle.applied ▸ hx)

/-- An ACK takes a pair: the others wait for other sends. -/
theorem Inv.takes (h : w.Inv) {c' : Controller} {sender3Hex addr : String} {pending : PendingConfig}
    (hpending : w.controller.pendingConfig sender3Hex = some pending)
    (htakes : Takes w.controller c' sender3Hex addr pending) : Inv {w with controller := c'} := by
  have htaken := h.pending sender3Hex pending hpending
  obtain ⟨send, hsend, hto, -⟩ := htaken.send
  refine ⟨fun recv3Hex other hp => ?_, h.acks, fun x hx => ?_⟩
  · have hne : recv3Hex ≠ sender3Hex := by
      rintro rfl
      rw [htakes.pendingConfig, Function.update_self] at hp
      cases hp
    rw [htakes.pendingConfig, Function.update_of_ne hne] at hp
    have hold := h.pending recv3Hex other hp
    refine ⟨hold.stashed, hold.newest, ?_, hold.send⟩
    rw [htakes.applied, List.map_append, List.mem_append]
    rintro (hin | hin)
    · exact hold.waiting hin
    · obtain ⟨osend, hosend, hoto, -⟩ := hold.send
      have hsame : other.sent = pending.sent := List.mem_singleton.mp hin
      rw [hsame, hsend, Option.some_inj] at hosend
      exact hne (by rw [← hoto, ← hto, hosend])
  · rw [htakes.applied, List.mem_append] at hx
    rcases hx with hx | hx
    · exact h.applied x hx
    · rw [List.mem_singleton.mp hx]
      exact (List.getElem?_eq_some_iff.mp hsend).1

/-- An ACK of any kind keeps what holds. -/
theorem Inv.handleAckEvent (h : w.Inv) (ev : AckEvent) : Inv {w with controller := handleAckEvent w.controller ev} := by
  by_cases hok : ev.ackOf = some OPC_CONFIG ∧ ev.ackStatus = some 0
  · cases hdev : w.controller.getDeviceFromAddress ev.sender3Hex with
    | none =>
      exact h.idle (handleAckEvent_idle fun _ _ dev hsome => absurd (hdev.symm.trans hsome) (by simp))
    | some dev =>
      cases hpending : w.controller.pendingConfig ev.sender3Hex with
      | none => exact h.idle (handleAckEvent_idle fun _ _ _ _ => hpending)
      | some pending => exact h.takes hpending (handleAckEvent_takes hok.1 hok.2 hdev hpending)
  · exact h.idle (handleAckEvent_idle fun hof hstatus => absurd ⟨hof, hstatus⟩ hok)

/-- A later send leaves the sends before it. -/
theorem sends_append {sent : Nat} {send : ConfigSend} (more : ConfigSend) (h : w.sends[sent]? = some send) :
    (w.sends ++ [more])[sent]? = some send := by
  rw [List.getElem?_append_left (List.getElem?_eq_some_iff.mp h).1]
  exact h

theorem To.mono {sent : Nat} {mac : Bytes} (h : w.To sent mac) (more : ConfigSend) (c' : Controller) :
    To {w with controller := c', sends := w.sends ++ [more]} sent mac := by
  obtain ⟨send, hsend, hto⟩ := h
  exact ⟨send, sends_append more hsend, hto⟩

theorem Newest.append {sent : Nat} {recv3Hex : String} (h : w.Newest sent recv3Hex) {more : ConfigSend}
    (hmore : more.recv3Hex ≠ recv3Hex) (c' : Controller) :
    Newest {w with controller := c', sends := w.sends ++ [more]} sent recv3Hex := by
  intro m later hlt hlater
  rcases Nat.lt_or_ge m w.sends.length with hm | hm
  · rw [List.getElem?_append_left hm] at hlater
    exact h m later hlt hlater
  · rw [List.getElem?_append_right hm] at hlater
    obtain rfl : later = more := by
      have hmem := List.mem_of_getElem? hlater
      exact List.mem_singleton.mp hmem
    exact hmore

/-- What a send does to the pairs. -/
theorem sendConfig_does (c : Controller) (recv3 : Bytes) (option data0 : Int) (waitForAck : Bool) (sent : Nat) :
    (sendConfig c recv3 option data0 waitForAck sent).applied = c.applied ∧
    (sendConfig c recv3 option data0 waitForAck sent).configBytes = c.configBytes ∧
    (sendConfig c recv3 option data0 waitForAck sent).pendingConfig =
      if hexUpper recv3 ≠ "" ∧ hexUpper recv3 ≠ "FFFFFF" then
        Function.update c.pendingConfig (hexUpper recv3)
          (some ⟨(option % 256).toNat, (data0 % 256).toNat, sent⟩)
      else c.pendingConfig := by
  unfold sendConfig
  dsimp only
  split
  · generalize Controller.getDeviceFromAddress _ _ = found
    cases found with
    | none => exact ⟨rfl, rfl, rfl⟩
    | some dev =>
      cases waitForAck with
      | false => exact ⟨rfl, rfl, rfl⟩
      | true => exact ⟨rfl, change_bytes fun _ => ⟨rfl, rfl⟩, rfl⟩
  · exact ⟨rfl, rfl, rfl⟩

theorem Inv.send (h : w.Inv) (recv3 : Bytes) (option data0 : Int) (waitForAck : Bool) :
    Inv (w.step (.send recv3 option data0 waitForAck)) := by
  obtain ⟨happlied, -, hpendings⟩ := sendConfig_does w.controller recv3 option data0 waitForAck w.sends.length
  refine ⟨fun recv3Hex pending hp => ?_, fun ack hack => ?_, fun x hx => ?_⟩
  · by_cases hkey : recv3Hex = hexUpper recv3 ∧ hexUpper recv3 ≠ "" ∧ hexUpper recv3 ≠ "FFFFFF"
    · obtain ⟨rfl, hstash⟩ := hkey
      have hnew : (⟨(option % 256).toNat, (data0 % 256).toNat, w.sends.length⟩ : PendingConfig) = pending := by
        have hp' := hpendings ▸ hp
        rw [if_pos hstash, Function.update_self] at hp'
        exact Option.some_inj.mp hp'
      subst hnew
      refine ⟨hstash, fun m later hlt hlater => ?_, ?_, ⟨⟨recv3, option, data0⟩, ?_, rfl, rfl, rfl⟩⟩
      · have hbound : m < (w.sends ++ [_]).length := (List.getElem?_eq_some_iff.mp hlater).1
        rw [List.length_append, List.length_singleton] at hbound
        have hafter : w.sends.length < m := hlt
        omega
      · intro hin
        obtain ⟨x, hx, hsent⟩ := List.mem_map.mp hin
        have hbefore := h.applied x (happlied ▸ hx)
        exact absurd hsent hbefore.ne
      · exact List.getElem?_concat_length ..
    · have hold : w.controller.pendingConfig recv3Hex = some pending := by
        have hp' := hpendings ▸ hp
        split at hp'
        · next hstash => rwa [Function.update_of_ne fun heq => hkey ⟨heq, hstash⟩] at hp'
        · exact hp'
      have hwaits := h.pending recv3Hex pending hold
      have hother : (⟨recv3, option, data0⟩ : ConfigSend).recv3Hex ≠ recv3Hex := by
        rintro rfl
        exact hkey ⟨rfl, hwaits.stashed⟩
      obtain ⟨send, hsend, hrest⟩ := hwaits.send
      exact ⟨hwaits.stashed, hwaits.newest.append hother _, happlied.symm ▸ hwaits.waiting,
        send, sends_append _ hsend, hrest⟩
  · obtain ⟨hto, haccepted⟩ := h.acks ack hack
    exact ⟨hto.mono _ _, haccepted⟩
  · have hlt := h.applied x (happlied ▸ hx)
    show x.sent < (w.sends ++ [_]).length
    rw [List.length_append]
    omega

/-- Every step keeps what holds. -/
theorem Inv.step (h : w.Inv) (act : ConfigAct) : Inv (w.step act) := by
  cases act with
  | send recv3 option data0 waitForAck => exact h.send recv3 option data0 waitForAck
  | write sent =>
    show Inv (if _ then _ else _)
    split
    · exact h.air h.acks
    · exact h
  | answer mac sent status =>
    show Inv (if _ then _ else _)
    split
    · next hheard =>
      refine h.air fun ack hack => ?_
      rcases List.mem_cons.mp hack with rfl | hack
      · refine ⟨hheard.2, fun hok => ?_⟩
        show (mac, sent) ∈ if status = 0 then _ else _
        rw [if_pos hok]
        exact List.mem_cons_self ..
      · obtain ⟨hto, haccepted⟩ := h.acks ack hack
        refine ⟨hto, fun hok => ?_⟩
        show (ack.mac, ack.sent) ∈ if status = 0 then _ else _
        split
        · exact List.mem_cons_of_mem _ (haccepted hok)
        · exact haccepted hok
    · exact h
  | deliver ack =>
    show Inv (if _ then _ else _)
    split
    · exact h.handleAckEvent ack.event
    · exact h
  | other ev =>
    show Inv (if _ then _ else _)
    split
    · exact h
    · exact h.handleAckEvent ev
  | loseFrame sent => exact h.air h.acks
  | loseAck ack => exact h.air fun a ha => h.acks a (List.mem_filter.mp ha).1

/-! ### When an ACK applies its own send -/

theorem step_deliver {ack : ConfigAck} (hack : ack ∈ w.acks) :
    (w.step (.deliver ack)).controller = Pending.handleAckEvent w.controller ack.event := by
  rw [Air.step, if_pos hack]

/-- A pair that waits is that of the send which an ACK answers, if no later one went to the device. -/
theorem Inv.same_send (h : w.Inv) {ack : ConfigAck} {pending : PendingConfig} (hack : ack ∈ w.acks)
    (hpending : w.controller.pendingConfig (hexUpper (last3 ack.mac)) = some pending)
    (hnewest : w.Newest ack.sent (hexUpper (last3 ack.mac))) : pending.sent = ack.sent := by
  obtain ⟨send, hsend, hto⟩ := (h.acks ack hack).1
  have hwaits := h.pending _ _ hpending
  obtain ⟨own, hown, hownTo, -⟩ := hwaits.send
  rcases Nat.lt_trichotomy pending.sent ack.sent with hlt | heq | hgt
  · exact absurd (congrArg hexUpper hto) (hwaits.newest ack.sent send hlt hsend)
  · exact heq
  · exact absurd hownTo (hnewest pending.sent own hgt hown)

/-- An OK to a config that finds a device and a pair. -/
theorem stepRight_takes (h : w.Inv) {ack : ConfigAck} {dev : Device} {pending : PendingConfig} (hack : ack ∈ w.acks)
    (hok : ack.status = 0) (hdev : w.controller.getDeviceFromAddress (hexUpper (last3 ack.mac)) = some dev)
    (hpending : w.controller.pendingConfig (hexUpper (last3 ack.mac)) = some pending) :
    w.StepRight (.deliver ack) ↔
      upper dev.addr = hexUpper ack.mac ∧ w.Newest ack.sent (hexUpper (last3 ack.mac)) := by
  have hwaits := h.pending _ _ hpending
  have htakes : Takes w.controller (w.step (.deliver ack)).controller (hexUpper (last3 ack.mac)) dev.addr pending := by
    rw [step_deliver hack]
    have hof : ack.event.ackOf = some OPC_CONFIG := rfl
    exact handleAckEvent_takes hof (congrArg some hok) hdev hpending
  constructor
  · rintro (huntouched | ⟨_, addr, send, heq, hright⟩)
    · have hlonger := htakes.applied.symm.trans huntouched.applied
      exact absurd (List.append_right_eq_self.mp hlonger) (List.cons_ne_nil _ _)
    · cases heq
      have hsame := List.append_cancel_left (htakes.applied.symm.trans hright.applied)
      obtain ⟨haddr, hsent⟩ := Applied.mk.inj (List.singleton_inj.mp hsame)
      exact ⟨haddr ▸ hright.record, hsent ▸ hwaits.newest⟩
  · rintro ⟨hrecord, hnewest⟩
    have hsent : pending.sent = ack.sent := h.same_send hack hpending hnewest
    obtain ⟨⟨send, hsend, hto⟩, haccepted⟩ := h.acks ack hack
    obtain ⟨own, hown, -, hoption, hdata0⟩ := hwaits.send
    obtain rfl : own = send := by
      rw [hsent] at hown
      exact Option.some_inj.mp (hown.symm.trans hsend)
    refine .inr ⟨ack, dev.addr, own, rfl, hok, hrecord, hsend, hto, haccepted hok, ?_, ?_, ?_⟩
    · exact hsent ▸ hwaits.waiting
    · rw [htakes.applied, hsent]
    · rw [htakes.bytes, hoption, hdata0]

/-- **A step is right just when the ACK that it delivers, if any, is coherent.** -/
theorem stepRight_iff (h : w.Inv) (act : ConfigAct) : w.StepRight act ↔ w.Coherent act := by
  cases act with
  | send recv3 option data0 waitForAck =>
    obtain ⟨happlied, hbytes, -⟩ := sendConfig_does w.controller recv3 option data0 waitForAck w.sends.length
    exact iff_of_true (.inl ⟨happlied, hbytes⟩) trivial
  | write sent =>
    refine iff_of_true (.inl ?_) trivial
    show Untouched w.controller (if _ then _ else _ : Air).controller
    split
    · exact ⟨rfl, rfl⟩
    · exact ⟨rfl, rfl⟩
  | answer mac sent status =>
    refine iff_of_true (.inl ?_) trivial
    show Untouched w.controller (if _ then _ else _ : Air).controller
    split
    · exact ⟨rfl, rfl⟩
    · exact ⟨rfl, rfl⟩
  | other ev =>
    refine iff_of_true (.inl ?_) trivial
    show Untouched w.controller (if _ then _ else _ : Air).controller
    split
    · exact ⟨rfl, rfl⟩
    · next hok => exact (handleAckEvent_idle fun hof hstatus => absurd ⟨hof, hstatus⟩ hok).toUntouched
  | loseFrame sent => exact iff_of_true (.inl ⟨rfl, rfl⟩) trivial
  | loseAck ack => exact iff_of_true (.inl ⟨rfl, rfl⟩) trivial
  | deliver ack =>
    by_cases hack : ack ∈ w.acks
    · have hidle : (ack.status = 0 → ∀ dev, w.controller.getDeviceFromAddress (hexUpper (last3 ack.mac)) = some dev →
          w.controller.pendingConfig (hexUpper (last3 ack.mac)) = none) → w.StepRight (.deliver ack) := fun hnone => by
        refine .inl ?_
        rw [step_deliver hack]
        exact (handleAckEvent_idle fun _ hstatus => hnone (Option.some_inj.mp hstatus)).toUntouched
      by_cases hok : ack.status = 0
      · cases hdev : w.controller.getDeviceFromAddress (hexUpper (last3 ack.mac)) with
        | none =>
          refine iff_of_true (hidle fun _ dev hsome => ?_) fun _ _ dev hsome => ?_
          · exact absurd (hdev.symm.trans hsome) (by simp)
          · exact absurd (hdev.symm.trans hsome) (by simp)
        | some dev =>
          cases hpending : w.controller.pendingConfig (hexUpper (last3 ack.mac)) with
          | none => exact iff_of_true (hidle fun _ _ _ => hpending) fun _ _ _ _ hne => absurd hpending hne
          | some pending =>
            rw [stepRight_takes h hack hok hdev hpending]
            refine ⟨fun hright _ _ other hother _ => ?_, fun hcoherent => ?_⟩
            · rw [hdev, Option.some_inj] at hother
              exact hother ▸ hright
            · exact hcoherent hack hok dev hdev (by simp [hpending])
      · exact iff_of_true (hidle fun hzero => absurd hzero hok) fun _ hzero => absurd hzero hok
    · refine iff_of_true (.inl ?_) fun hin => absurd hin hack
      rw [Air.step, if_neg hack]
      exact ⟨rfl, rfl⟩

end Step

/-- **The mirror in every run.** Over any configs to any devices, and their ACKs in any order, a config byte
changes only by the pair of a send that its device accepted, once for each send, just when every OK that
finds a pair waiting answers the config that went last to these three bytes, and comes from the device
whose record they find. -/
theorem mirror_attributed (devices : List ConfigDevice) (acts : List ConfigAct) :
    Along Air.step StepRight (quiet devices) acts ↔ Along Air.step Coherent (quiet devices) acts :=
  along_congr (I := Inv) (Q := fun _ => True) (fun _ act h _ => h.step act) (fun _ act h _ => stepRight_iff h act)
    (inv_quiet devices) fun _ _ => trivial

/-! ### Senders that wait -/

/-- A config is sent to a device only when no earlier one to its three bytes can be accepted any more and
no OK to one is on its way; a frame is not written again after a later send; and a device that answers
is told from the others by its three bytes. -/
def Sparing (w : Air) : ConfigAct → Prop
  | .send recv3 _ _ _ => ∀ sent send, w.sends[sent]? = some send → send.recv3Hex = hexUpper recv3 →
    sent ∉ w.frames ∧ ∀ ack ∈ w.acks, ack.sent = sent → ack.status ≠ 0
  | .write sent => ∀ send, w.sends[sent]? = some send → w.Newest sent send.recv3Hex
  | .deliver ack => ∀ dev, w.controller.getDeviceFromAddress (hexUpper (last3 ack.mac)) = some dev →
    upper dev.addr = hexUpper ack.mac
  | _ => True

/-- Whatever is on its way is of the last send to its three bytes. -/
structure Calm (w : Air) : Prop extends Inv w where
  frames : ∀ sent ∈ w.frames, ∃ send, w.sends[sent]? = some send ∧ w.Newest sent send.recv3Hex
  oks : ∀ ack ∈ w.acks, ack.status = 0 → w.Newest ack.sent (hexUpper (last3 ack.mac))

section Sparing
variable {w : Air}

theorem Calm.send (h : w.Calm) {recv3 : Bytes} {option data0 : Int} {waitForAck : Bool}
    (hsparing : w.Sparing (.send recv3 option data0 waitForAck)) :
    Calm (w.step (.send recv3 option data0 waitForAck)) := by
  refine ⟨h.toInv.send recv3 option data0 waitForAck, fun sent hsent => ?_, fun ack hack hok => ?_⟩
  · obtain ⟨send, hsend, hnewest⟩ := h.frames sent hsent
    refine ⟨send, sends_append _ hsend, hnewest.append (fun hto => ?_) _⟩
    exact (hsparing sent send hsend hto.symm).1 hsent
  · obtain ⟨send, hsend, hto⟩ := (h.acks ack hack).1
    refine (h.oks ack hack hok).append (fun hnew => ?_) _
    exact (hsparing ack.sent send hsend ((congrArg hexUpper hto).trans hnew.symm)).2 ack hack rfl hok

theorem Calm.step (h : w.Calm) {act : ConfigAct} (hsparing : w.Sparing act) : Calm (w.step act) := by
  have hinv : Inv (w.step act) := h.toInv.step act
  cases act with
  | send recv3 option data0 waitForAck => exact h.send hsparing
  | write sent =>
    by_cases hsent : sent < w.sends.length
    · rw [Air.step, if_pos hsent] at hinv ⊢
      refine ⟨hinv, fun other hother => ?_, h.oks⟩
      rcases List.mem_cons.mp hother with rfl | hother
      · have hsend := List.getElem?_eq_getElem hsent
        exact ⟨_, hsend, hsparing _ hsend⟩
      · exact h.frames other hother
    · rwa [Air.step, if_neg hsent]
  | answer mac sent status =>
    by_cases hheard : sent ∈ w.frames ∧ w.To sent mac
    · rw [Air.step, if_pos hheard] at hinv ⊢
      refine ⟨hinv, h.frames, fun ack hack hok => ?_⟩
      rcases List.mem_cons.mp hack with rfl | hack
      · obtain ⟨send, hsend, hnewest⟩ := h.frames sent hheard.1
        obtain ⟨own, hown, hto⟩ := hheard.2
        obtain rfl : send = own := Option.some_inj.mp (hsend.symm.trans hown)
        exact congrArg hexUpper hto ▸ hnewest
      · exact h.oks ack hack hok
    · rwa [Air.step, if_neg hheard]
  | deliver ack =>
    by_cases hack : ack ∈ w.acks
    · rw [Air.step, if_pos hack] at hinv ⊢
      exact ⟨hinv, h.frames, h.oks⟩
    · rwa [Air.step, if_neg hack]
  | other ev =>
    by_cases hok : ev.ackOf = some OPC_CONFIG ∧ ev.ackStatus = some 0
    · rwa [Air.step, if_pos hok]
    · rw [Air.step, if_neg hok] at hinv ⊢
      exact ⟨hinv, h.frames, h.oks⟩
  | loseFrame sent => exact ⟨hinv, fun other hother => h.frames other (List.mem_filter.mp hother).1, h.oks⟩
  | loseAck ack => exact ⟨hinv, h.frames, fun other hother => h.oks other (List.mem_filter.mp hother).1⟩

/-- **Senders that wait keep the mirror right.** -/
theorem coherent_of_sparing (devices : List ConfigDevice) {acts : List ConfigAct}
    (hsparing : Along Air.step Sparing (quiet devices) acts) : Along Air.step Coherent (quiet devices) acts := by
  have hstart : Calm (quiet devices) := by
    refine ⟨inv_quiet devices, fun sent h => ?_, fun ack h => ?_⟩
    · cases h
    · cases h
  refine along_of_invariant (I := Calm) (fun _ _ h hs => h.step hs) (fun w act h hs => ?_) hstart hsparing
  cases act with
  | deliver ack => exact fun hack hok dev hdev _ => ⟨hs dev hdev, h.oks ack hack hok⟩
  | _ => trivial

end Sparing

/-! ### A send over another -/

/-- A device accepts a first config, and refuses a second one that is sent before the ACK to the first is in. -/
def overlapping : List ConfigAct :=
  [.send [0xDD, 0xEE, 0xFF] 1 1 false, .write 0, .answer [0xAA, 0xBB, 0xCC, 0xDD, 0xEE, 0xFF] 0 0,
    .send [0xDD, 0xEE, 0xFF] 3 1 false, .write 1, .answer [0xAA, 0xBB, 0xCC, 0xDD, 0xEE, 0xFF] 1 1]

/-- The ACK to the first config applies the second one: the mirror shows a bit that the device never set. -/
theorem mirror_misattributed :
    ¬ Along Air.step StepRight (quiet [{addr := "AABBCCDDEEFF", groupId := 0, networkId := none}])
      (overlapping ++ [.deliver ⟨[0xAA, 0xBB, 0xCC, 0xDD, 0xEE, 0xFF], 0, 0⟩]) := by
  intro h
  rcases h.last with huntouched | ⟨_, addr, send, heq, hright⟩
  · exact absurd huntouched.bytes (by decide +kernel)
  · cases heq
    have hsent := congrArg (List.map (·.sent)) hright.applied
    rw [List.map_append] at hsent
    change _ = _ ++ [0] at hsent
    exact absurd hsent (by decide +kernel)

end Air

end RaceLink.Pending
