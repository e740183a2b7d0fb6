import RaceLink.Library.Keyed
import RaceLink.Protocol.Replies

/-! How a reply reaches the host: over the serial line of a gateway (`transport/gateway_serial.py`) or as a
datagram (`transport/ethernet_transport.py`).

The gateway puts the RSSI and SNR of its radio behind the struct. A datagram has no such trailer and is given one
of zeros, so that both are read by the same codec. `reply_paths` says that they read the same. -/
namespace RaceLink.Wire
open Library Python Protocol

/-! ### The handlers -/

/-- The types of a gateway's own events; `_handle_frame` has a branch for each. -/
def gatewayEvents : List UInt8 := [0xF0, 0xF1, 0xF3, 0xF4, 0xF5, 0xF6]

/-- `_handle_frame`, for the frames that a gateway forwards from a node. -/
def handleFrame (typeByte : UInt8) (data : Bytes) : Option WireReply :=
  if typeByte ∈ gatewayEvents then none
  else if typeByte &&& 0x80 ≠ 0x80 then none
  else if data.length < 10 then none
  else match data.drop (data.length - 3) with
    | [rssi0, rssi1, snr] => some (parseReplyEvent typeByte data (readI16 rssi0 rssi1) (readI8 snr))
    | _ => none

/-- A host and a port. -/
abbrev Address := String × Nat

/-- `_addr_book`: where a sender was last heard from. -/
abbrev AddrBook := List (Bytes × Address)

/-- `_handle_datagram`, for the datagrams that are not empty: the event, and what is learnt of the sender. -/
def handleDatagram (book : AddrBook) (addr : Address) : Bytes → Option WireReply × AddrBook
  | [] => (none, book)
  | typeByte :: rest =>
    if typeByte &&& 0x80 ≠ 0x80 then (none, book)
    else if rest.length < 7 then (none, book)
    else (some (parseReplyEvent typeByte (rest ++ [0, 0, 0]) 0 0), putKey Prod.fst (rest.take 3, addr) book)

/-! ### Frames of a node -/

/-- `Header7`. -/
structure Header7 where
  sender : Vector UInt8 3
  receiver : Vector UInt8 3
  type : UInt8
deriving DecidableEq, Repr

def Header7.bytes (h : Header7) : Bytes := h.sender.toList ++ h.receiver.toList ++ [h.type]

/-- `make_type(DIR_N2M, opcode)`. -/
def typeOf (r : NodeReply) : UInt8 := 0x80 ||| r.opcode

/-- A type that is a node's, not an event of a gateway. -/
def FromNode (typeByte : UInt8) : Prop := typeByte ∉ gatewayEvents ∧ typeByte &&& 0x80 = 0x80

/-- What is to be read of a header and some fields. -/
def eventOf (typeByte : UInt8) (h : Header7) (hostRssi hostSnr : Int) (fields : ReplyFields) : WireReply where
  typeByte := typeByte
  dir := typeByte &&& 0x80
  opc := typeByte &&& 0x7F
  sender3 := h.sender.toList
  receiver3 := h.receiver.toList
  hostRssi := hostRssi
  hostSnr := hostSnr
  fields := fields

theorem fromNode_opcodes : ∀ opc ∈ [OPC_DEVICES, OPC_STATUS, OPC_GET_CONFIG, OPC_GET_RF_CONFIG, OPC_ACK],
    FromNode (0x80 ||| opc) ∧ (0x80 ||| opc) &&& 0x7F = opc :=
  List.forall_iff_forall_mem.mp (by unfold FromNode; decide)

theorem typeOf_fromNode (r : NodeReply) : FromNode (typeOf r) ∧ typeOf r &&& 0x7F = r.opcode := by
  apply fromNode_opcodes
  cases r <;> simp [NodeReply.opcode]

/-- A header, a body and three bytes of trailer are told apart. -/
theorem parseReplyEvent_frame (typeByte : UInt8) (h : Header7) (body : Bytes) (t0 t1 t2 : UInt8) (rssi snr : Int) :
    parseReplyEvent typeByte (h.bytes ++ body ++ [t0, t1, t2]) rssi snr =
      eventOf typeByte h rssi snr (parseFields (typeByte &&& 0x7F) body) := by
  obtain ⟨sender, receiver, type⟩ := h
  obtain ⟨s0, s1, s2, hsender⟩ : ∃ a b c, sender.toList = [a, b, c] := List.length_eq_three.mp (by simp)
  obtain ⟨r0, r1, r2, hreceiver⟩ : ∃ a b c, receiver.toList = [a, b, c] := List.length_eq_three.mp (by simp)
  have htrailer : dropTrailer (Header7.bytes ⟨sender, receiver, type⟩ ++ body ++ [t0, t1, t2]) =
      Header7.bytes ⟨sender, receiver, type⟩ ++ body := by
    rw [dropTrailer, List.length_append]
    exact List.take_left' (by simp)
  unfold parseReplyEvent
  rw [htrailer]
  simp [eventOf, Header7.bytes, hsender, hreceiver]

theorem Header7.length_bytes (h : Header7) : h.bytes.length = 7 := by
  simp [Header7.bytes]

/-- A frame of the serial line. -/
theorem handleFrame_reply {typeByte : UInt8} (htype : FromNode typeByte) (h : Header7) (body : Bytes)
    (rssi0 rssi1 snr : UInt8) : handleFrame typeByte (h.bytes ++ body ++ [rssi0, rssi1, snr]) =
      some (eventOf typeByte h (readI16 rssi0 rssi1) (readI8 snr) (parseFields (typeByte &&& 0x7F) body)) := by
  have htrailer : (h.bytes ++ body ++ [rssi0, rssi1, snr]).drop ((h.bytes ++ body ++ [rssi0, rssi1, snr]).length - 3) =
      [rssi0, rssi1, snr] := by
    rw [List.length_append]
    exact List.drop_left' (by simp)
  have hlength : ¬ (h.bytes ++ body ++ [rssi0, rssi1, snr]).length < 10 := by
    simp [h.length_bytes]
    omega
  rw [handleFrame, if_neg htype.1, if_neg (not_not_intro htype.2), if_neg hlength, htrailer]
  exact congrArg some (parseReplyEvent_frame ..)

/-- A datagram. -/
theorem handleDatagram_reply {typeByte : UInt8} (htype : FromNode typeByte) (h : Header7) (body : Bytes)
    (book : AddrBook) (addr : Address) : (handleDatagram book addr (typeByte :: (h.bytes ++ body))).1 =
      some (eventOf typeByte h 0 0 (parseFields (typeByte &&& 0x7F) body)) := by
  rw [handleDatagram, if_neg (not_not_intro htype.2), if_neg (by simp [h.length_bytes])]
  exact congrArg some (parseReplyEvent_frame ..)

/-- Both paths give an event with these fields and this header, whatever the trailer and the address are. -/
def Received (typeByte : UInt8) (h : Header7) (body : Bytes) (fields : ReplyFields) : Prop :=
  (∀ rssi0 rssi1 snr, handleFrame typeByte (h.bytes ++ body ++ [rssi0, rssi1, snr]) =
    some (eventOf typeByte h (readI16 rssi0 rssi1) (readI8 snr) fields)) ∧
  ∀ book addr, (handleDatagram book addr (typeByte :: (h.bytes ++ body))).1 = some (eventOf typeByte h 0 0 fields)

theorem received {typeByte : UInt8} (htype : FromNode typeByte) (h : Header7) (body : Bytes) :
    Received typeByte h body (parseFields (typeByte &&& 0x7F) body) :=
  ⟨handleFrame_reply htype h body, fun book addr => handleDatagram_reply htype h body book addr⟩

/-- **Both paths read the same of a reply: the values of its struct, but for the direction bit that an ACK
echoes; of a body of another length nothing; of an ACK that is long enough its first bytes; and of a configuration
that was in range that configuration.** -/
theorem reply_paths :
    (∀ (r : NodeReply) (h : Header7), Received (typeOf r) h r.body r.fields) ∧
    (∀ (typeByte : UInt8) (h : Header7) (body : Bytes), FromNode typeByte → ¬ Decoded (typeByte &&& 0x7F) body.length →
      ∃ reply, Received typeByte h body (.bodyRaw reply body)) ∧
    (∀ (typeByte : UInt8) (h : Header7) (ackOf ackStatus : UInt8) (rest : Bytes), FromNode typeByte →
      typeByte &&& 0x7F = OPC_ACK → Received typeByte h (ackOf :: ackStatus :: rest)
        (.ack (ackOf.toNat % 128) ackStatus.toNat (rest.head?.map fun seq => (seq.toNat : Int)))) ∧
    ∀ (rfConfig : Dict) (c : RfConfig) (h : Header7), (∀ e ∈ c.entries, rfField rfConfig e.1 = some e.2) → c.InRange →
      ∃ body, buildRfConfigBody rfConfig = some body ∧ Received (0x80 ||| OPC_GET_RF_CONFIG) h body (.getRfConfig c.dict) := by
  refine ⟨fun r h => ?_, fun typeByte h body htype hlength => ?_, fun typeByte h ackOf ackStatus rest htype hack => ?_,
    fun rfConfig c h hread hrange => ?_⟩
  · have hreceived := received (typeOf_fromNode r).1 h r.body
    rwa [(typeOf_fromNode r).2, parseFields_body] at hreceived
  · obtain ⟨reply, hraw⟩ := parseFields_bodyRaw hlength
    exact ⟨reply, hraw ▸ received htype h body⟩
  · have hreceived := received htype h (ackOf :: ackStatus :: rest)
    rwa [hack] at hreceived
  · obtain ⟨body, hbuild, hunpack⟩ := unpack_buildRfConfigBody hread hrange
    obtain ⟨htype, hopcode⟩ := fromNode_opcodes OPC_GET_RF_CONFIG (by decide)
    have hreceived := received htype h body
    rw [hopcode, parseFields_rfConfig hunpack] at hreceived
    exact ⟨body, hbuild, hreceived⟩

/-- A header from a node to the host. -/
def someHeader : Header7 := ⟨#v[0x11, 0x22, 0x33], #v[0xFF, 0xFF, 0xFF], 0xFE⟩

/-- The settings of a channel. -/
def someSettings : RfConfig := ⟨867700000, 1250, 7, 5, 18, -9, 8⟩

theorem reply_paths_some :
    (∃ reply, Received 0x81 someHeader [1, 2] (.bodyRaw reply [1, 2])) ∧
    Received 0xFE someHeader [0x03, 0x00, 0x07] (.ack 3 0 (some 7)) ∧
    ∃ body, buildRfConfigBody someSettings.dict = some body ∧
      Received (0x80 ||| OPC_GET_RF_CONFIG) someHeader body (.getRfConfig someSettings.dict) :=
  ⟨reply_paths.2.1 0x81 someHeader [1, 2] (by unfold FromNode; decide) (by unfold Decoded; decide),
    reply_paths.2.2.1 0xFE someHeader 0x03 0x00 [0x07] (by unfold FromNode; decide) (by decide),
    reply_paths.2.2.2 someSettings.dict someSettings someHeader (by decide +kernel)
      ⟨by decide, by decide, by decide, by decide, by decide, by decide, by decide⟩⟩

theorem ack_masked_and_long :
    (handleFrame 0xFE (someHeader.bytes ++ (NodeReply.ack 0x83 0 7).body ++ [0, 0, 0])).map WireReply.fields =
        some (.ack 0x03 0 (some 7)) ∧
      (handleFrame 0xFE (someHeader.bytes ++ [0x03, 0, 7, 1] ++ [0, 0, 0])).map WireReply.fields =
        some (.ack 3 0 (some 7)) := by
  decide +kernel

end RaceLink.Wire
