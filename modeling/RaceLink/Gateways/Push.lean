import RaceLink.Fleet.Groups
import RaceLink.Routing.Senders

/-! A push of RF settings to a node (`set_node_rf_config` of `services/gateway_service.py`),
which a migration makes for one device after the other.

The frame goes to the last three bytes of a MAC, so the device that is put online by the
reply is the first one that ends in them. -/
namespace RaceLink.Gateways
open Python Library Domain Routing Fleet

/-- A frame with RF settings, on the transport it is written to, and the MAC it is meant for
(which is not on the wire). -/
structure RfFrame where
  transport : Transport
  mac : String
  recv3 : Bytes
  rf : Dict
deriving DecidableEq, Repr

/-- The outcome of `set_node_rf_config`. -/
structure PushOutcome where
  ok : Bool
  ackStatus : Option Int := none
  error : Option String := none
deriving DecidableEq, Repr

/-- What is heard of a frame: an ACK, nothing, or the send raises. -/
inductive PushReply where
  | acked (ackStatus : Int)
  | silent
  | raised (e : PyError)
deriving DecidableEq, Repr

/-- What happens on air: how often the frame was written by then, and the reply. -/
structure Exchange where
  sent : Nat := 1
  reply : PushReply := .acked 0
deriving DecidableEq, Repr

/-! ### Routes -/

/-- A transport with its kind. -/
def State.attached (s : State) (t : Transport) : Option Attached :=
  s.transports.find? fun a => a.toTransport == t

/-- The transport of a network, with its kind. -/
def State.transportForNetwork (s : State) (networkId : String) : Option Attached :=
  (s.host.transportForNetwork (some networkId)).bind s.attached

/-- `transport_for_device`. -/
def State.transportForDevice (s : State) (addr : String) : Option Attached :=
  (s.host.transportForDevice addr).bind s.attached

/-! ### One push -/

def markOnline (d : DeviceRecord) : DeviceRecord := {d with linkOnline := true}

/-- `send_and_wait_with_retries` for a settings frame: without an ident nothing is sent, and an
Ethernet transport has no frame for it. -/
def sendRfConfig (s : State) (t : Attached) (mac : String) (recv3 : Bytes) (rf : Dict) (air : Exchange) :
    Except PyError PushOutcome × List RfFrame × State :=
  let timeout : PushOutcome := {ok := false, error := some "timeout"}
  if t.identMac = "" ∨ t.kind = .ethernet then (.ok timeout, [], s)
  else
    let frames := List.replicate air.sent ⟨t.toTransport, mac, recv3, rf⟩
    match air.reply with
    | .raised e => (.error e, frames, s)
    | .silent => (.ok timeout, frames, s)
    | .acked status =>
      (.ok {ok := status == 0, ackStatus := some status}, frames, changeDevice s (hexUpper recv3) markOnline)

/-- The transport of a push: the given one, the device's, or the first. -/
def State.pushRoute (s : State) (macStr : String) (transport : Option Attached) : Option Attached :=
  (transport.or (s.transportForDevice macStr)).or s.transports.head?

/-- `set_node_rf_config`. -/
def setNodeRfConfig (s : State) (mac : String) (rf : Dict) (transport : Option Attached) (air : Exchange) :
    Except PyError PushOutcome × List RfFrame × State :=
  let macStr := upper (strip mac)
  match s.pushRoute macStr transport with
  | none => (.ok {ok := false, error := some "transport unavailable"}, [], s)
  | some t =>
    if macStr.length ≠ 12 then (.ok {ok := false, error := some "mac must be 12 hex chars"}, [], s)
    else match macLast3FromHex macStr with
      | .error e => (.error e, [], s)
      | .ok recv3 =>
        if recv3 = everyone then
          (.ok {ok := false, error := some "broadcast forbidden for OPC_RF_CONFIG"}, [], s)
        else sendRfConfig s t macStr recv3 rf air

/-- What a migration makes of it: an exception is a failed push. -/
def pushRf (s : State) (mac : String) (rf : Dict) (transport : Option Attached) (air : Exchange) :
    PushOutcome × List RfFrame × State :=
  match setNodeRfConfig s mac rf transport air with
  | (.ok outcome, frames, s) => (outcome, frames, s)
  | (.error _, frames, s) => ({ok := false, error := some "exception"}, frames, s)

/-- A loop over MACs that pushes to each. -/
def pushEach {ε : Type} (push : State → String → ε × List RfFrame × State) :
    List String → State → List ε × List RfFrame × State
  | [], s => ([], [], s)
  | mac :: rest, s =>
    let (entry, frames, s) := push s mac
    let (entries, later, s) := pushEach push rest s
    (entry :: entries, frames ++ later, s)

theorem pushEach_cons {ε : Type} (push : State → String → ε × List RfFrame × State) (mac : String)
    (rest : List String) (s : State) : pushEach push (mac :: rest) s =
      ((push s mac).1 :: (pushEach push rest (push s mac).2.2).1,
        (push s mac).2.1 ++ (pushEach push rest (push s mac).2.2).2.1,
        (pushEach push rest (push s mac).2.2).2.2) := rfl

/-! ### What a push leaves -/

theorem changeDevice_does (s : State) (addr : String) (f : DeviceRecord → DeviceRecord) :
    ∃ devices, changeDevice s addr f = {s with devices} := by
  unfold changeDevice
  split
  · exact ⟨_, rfl⟩
  · exact ⟨_, rfl⟩

/-- The transport and the address that a push gets to, if nothing stops it before the air. -/
def reached (route : Option Attached) (macStr : String) : Option (Attached × Bytes) :=
  match route with
  | none => none
  | some t =>
    if macStr.length ≠ 12 then none
    else match macLast3FromHex macStr with
      | .error _ => none
      | .ok recv3 =>
        if recv3 = everyone ∨ t.identMac = "" ∨ t.kind = .ethernet then none else some (t, recv3)

/-- The device that a reply puts online. -/
def heard (s : State) (recv3 : Bytes) : PushReply → State
  | .acked _ => changeDevice s (hexUpper recv3) markOnline
  | .silent => s
  | .raised _ => s

/-- The device that the ACK of a push is taken for. `handle_ack_event` looks the three bytes up and has `ack_update`
write into the record, which is online before or not: `last_ack` and the stamps of the link with the time it is,
and the signal readings. -/
def acknowledged (s : State) (mac : String) (transport : Option Attached) (air : Exchange) : Option String :=
  let macStr := upper (strip mac)
  match reached (s.pushRoute macStr transport) macStr, air.reply with
  | some (_, recv3), .acked _ => denotes s (hexUpper recv3)
  | _, _ => none

section Push
variable {s : State} {mac : String} {rf : Dict} {transport : Option Attached} {air : Exchange}

/-- A push that is stopped sends nothing and changes nothing. -/
theorem pushRf_stopped (h : reached (s.pushRoute (upper (strip mac)) transport) (upper (strip mac)) = none) :
    (pushRf s mac rf transport air).1.ok = false ∧ (pushRf s mac rf transport air).2 = ([], s) := by
  unfold pushRf setNodeRfConfig sendRfConfig
  unfold reached at h
  grind

/-- A push that gets to the air. -/
theorem pushRf_reached {t : Attached} {recv3 : Bytes}
    (h : reached (s.pushRoute (upper (strip mac)) transport) (upper (strip mac)) = some (t, recv3)) :
    ((pushRf s mac rf transport air).1.ok = true ↔ air.reply = .acked 0) ∧
      (pushRf s mac rf transport air).2 =
        (List.replicate air.sent ⟨t.toTransport, upper (strip mac), recv3, rf⟩, heard s recv3 air.reply) := by
  unfold reached at h
  split at h
  · cases h
  next t' hroute =>
  split at h
  · cases h
  next hlength =>
  split at h
  · cases h
  next recv3' hrecv3 =>
  split at h
  · cases h
  next hopen =>
  cases h
  obtain ⟨heveryone, hident⟩ := not_or.mp hopen
  unfold pushRf setNodeRfConfig
  dsimp only
  rw [hroute]
  dsimp only
  rw [if_neg hlength, hrecv3]
  dsimp only
  rw [if_neg heveryone, sendRfConfig, if_neg hident]
  cases hreply : air.reply with
  | acked status => simp [heard]
  | silent => simp [heard]
  | raised e => simp [heard]

theorem reached_route {route : Option Attached} {macStr : String} {t : Attached} {recv3 : Bytes}
    (h : reached route macStr = some (t, recv3)) : route = some t := by
  unfold reached at h
  grind

/-- What a push answers, and the frames it writes. -/
theorem pushRf_outcome (s : State) (mac : String) (rf : Dict) (transport : Option Attached) (air : Exchange) :
    ((pushRf s mac rf transport air).1.ok = true ↔
      (reached (s.pushRoute (upper (strip mac)) transport) (upper (strip mac))).isSome = true ∧
        air.reply = .acked 0) ∧
    ∀ frame, frame ∈ (pushRf s mac rf transport air).2.1 ↔
      ∃ t recv3, reached (s.pushRoute (upper (strip mac)) transport) (upper (strip mac)) = some (t, recv3) ∧
        air.sent ≠ 0 ∧ frame = ⟨t.toTransport, upper (strip mac), recv3, rf⟩ := by
  cases h : reached (s.pushRoute (upper (strip mac)) transport) (upper (strip mac)) with
  | none =>
    obtain ⟨hfailed, hnothing⟩ := @pushRf_stopped s mac rf transport air h
    rw [hfailed, hnothing]
    exact ⟨by simp, by simp⟩
  | some pair =>
    obtain ⟨t, recv3⟩ := pair
    obtain ⟨hanswer, hwritten⟩ := @pushRf_reached s mac rf transport air t recv3 h
    rw [hanswer, hwritten]
    refine ⟨by simp, fun frame => ?_⟩
    rw [List.mem_replicate]
    constructor
    · rintro ⟨hsent, hframe⟩
      exact ⟨t, recv3, rfl, hsent, hframe⟩
    · rintro ⟨t', recv3', hsame, hsent, hframe⟩
      cases hsame
      exact ⟨hsent, hframe⟩

/-- A push puts a device online at most. -/
theorem pushRf_cases (s : State) (mac : String) (rf : Dict) (transport : Option Attached) (air : Exchange) :
    (pushRf s mac rf transport air).2.2 = s ∨ ∃ recv3 : Bytes,
      (pushRf s mac rf transport air).2.2 = changeDevice s (hexUpper recv3) markOnline := by
  cases h : reached (s.pushRoute (upper (strip mac)) transport) (upper (strip mac)) with
  | none => exact .inl (by rw [(pushRf_stopped h).2])
  | some pair =>
    obtain ⟨t, recv3⟩ := pair
    rw [(pushRf_reached h).2]
    cases air.reply with
    | acked status => exact .inr ⟨recv3, rfl⟩
    | silent => exact .inl rfl
    | raised e => exact .inl rfl

theorem pushRf_does (s : State) (mac : String) (rf : Dict) (transport : Option Attached) (air : Exchange) :
    ∃ devices, (pushRf s mac rf transport air).2.2 = {s with devices} := by
  rcases pushRf_cases s mac rf transport air with heq | ⟨recv3, heq⟩
  · exact ⟨s.devices, heq⟩
  · rw [heq]
    exact changeDevice_does s _ _

theorem pushEach_does {ε : Type} {push : State → String → ε × List RfFrame × State}
    (h : ∀ s mac, ∃ devices, (push s mac).2.2 = {s with devices}) (macs : List String) (s : State) :
    ∃ devices, (pushEach push macs s).2.2 = {s with devices} := by
  induction macs generalizing s with
  | nil => exact ⟨s.devices, rfl⟩
  | cons mac rest ih =>
    obtain ⟨first, hfirst⟩ := h s mac
    obtain ⟨devices, hrest⟩ := ih (push s mac).2.2
    exact ⟨devices, hrest.trans (by rw [hfirst])⟩

end Push

end RaceLink.Gateways
