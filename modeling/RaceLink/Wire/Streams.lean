import RaceLink.Serial.Outcome

/-! A stream over Ethernet (`transport/ethernet_transport.py`), cut into the packets of `P_Stream`.

On the radio a gateway does this. A packet has a control byte and eight bytes of data; the control byte says
whether the packet is the first or the last, and how many are to come (`racelink_proto.h`). `stream_reassembles`
says what a receiver makes of the packets that takes nothing else than these, in their order. -/
namespace RaceLink.Wire
open Library Python Serial

/-! ### Control bytes -/

structure StreamCtrl where
  start : Bool
  stop : Bool
  packetsLeft : Nat
deriving DecidableEq, Repr

/-- `encode_stream_ctrl`. -/
def encodeStreamCtrl (start stop : Bool) (packetsLeft : UInt8) : UInt8 :=
  ((if start then 0x80 else 0x00) ||| (if stop then 0x40 else 0x00)) ||| (packetsLeft &&& 0x3F)

/-- `decode_stream_ctrl`. -/
def decodeStreamCtrl (ctrl : UInt8) : StreamCtrl where
  start := (ctrl &&& 0x80) ≠ 0
  stop := (ctrl &&& 0x40) ≠ 0
  packetsLeft := (ctrl &&& 0x3F).toNat

theorem decode_encodeStreamCtrl_small : ∀ (start stop : Bool) (n : Fin 64),
    decodeStreamCtrl (encodeStreamCtrl start stop (UInt8.ofNat n)) = ⟨start, stop, n⟩ := by
  decide

/-- A count that fits its six bits is read back. -/
theorem decode_encodeStreamCtrl (start stop : Bool) {n : Nat} (h : n < 64) :
    decodeStreamCtrl (encodeStreamCtrl start stop (UInt8.ofNat n)) = ⟨start, stop, n⟩ :=
  decode_encodeStreamCtrl_small start stop ⟨n, h⟩

/-! ### Sending -/

def CHUNK : Nat := 8

/-- How many packets a payload needs; one at least. -/
def packetCount (data : Bytes) : Nat := max 1 ((data.length + CHUNK - 1) / CHUNK)

def padded (data : Bytes) : Bytes := data ++ List.replicate (packetCount data * CHUNK - data.length) 0

/-- The body of the `i`th packet. -/
def streamBody (data : Bytes) (i : Nat) : Bytes :=
  let total := packetCount data
  let packetsLeft := total - 1 - i
  encodeStreamCtrl (i = 0) (i = total - 1) (UInt8.ofNat packetsLeft) :: ((padded data).drop (i * CHUNK)).take CHUNK

def OPC_STREAM : UInt8 := 0x07

/-- The payload of `_send_m2n`. -/
def datagram (typeFull : UInt8) (recv3 body : Bytes) : Bytes := [typeFull] ++ recv3 ++ body

/-- What comes after the type and the receiver. -/
def bodyOf (datagram : Bytes) : Bytes := datagram.drop 4

section Send
variable (answers : Nat → SendOutcome)

/-- The loop over the packets, for what the socket answers to each: the first that fails ends it. -/
def sendPackets (i : Nat) : List Bytes → SendOutcome × List Bytes
  | [] => (.success, [])
  | d :: rest =>
    match answers i with
    | .success =>
      let (outcome, sent) := sendPackets (i + 1) rest
      (outcome, d :: sent)
    | outcome => (outcome, [])

/-- `send_stream`, and the datagrams that went out. -/
def sendStream (recv3 payload : Bytes) : Except PyError SendOutcome × List Bytes :=
  if 16 < packetCount payload then (.ok .usbError, [])
  else if recv3.length ≠ 3 then (.error (.valueError "recv3 must be 3 bytes" []), [])
  else
    let (outcome, sent) := sendPackets answers 0
      ((List.range (packetCount payload)).map fun i => datagram OPC_STREAM recv3 (streamBody payload i))
    (.ok outcome, sent)

end Send

/-! ### Receiving -/

/-- A receiver of `P_Stream`: between streams, within one with so many packets to come, at the end of one, or
given a packet that does not belong there. -/
inductive StreamRx where
  | waiting
  | gathering (data : Bytes) (packetsLeft : Nat)
  | complete (data : Bytes)
  | broken
deriving DecidableEq, Repr

/-- After a packet's data: the stop bit comes with the count 0, and only there. -/
def StreamRx.gathered (data : Bytes) (ctrl : StreamCtrl) : StreamRx :=
  if ctrl.stop then if ctrl.packetsLeft = 0 then .complete data else .broken
  else if ctrl.packetsLeft = 0 then .broken else .gathering data ctrl.packetsLeft

/-- A packet: the first has the start bit, each other one counts down by one. -/
def StreamRx.packet (rx : StreamRx) : Bytes → StreamRx
  | [] => .broken
  | ctrl :: data =>
    let ctrl := decodeStreamCtrl ctrl
    if data.length ≠ 8 then .broken
    else match rx with
      | .waiting => if ctrl.start then .gathered data ctrl else .broken
      | .gathering before packetsLeft =>
        if !ctrl.start ∧ ctrl.packetsLeft + 1 = packetsLeft then .gathered (before ++ data) ctrl else .broken
      | .complete _ | .broken => .broken

/-! ### Reassembly -/

section Chunks
variable {data : Bytes}

theorem packetCount_pos (data : Bytes) : 1 ≤ packetCount data := le_max_left ..

theorem padded_length (data : Bytes) : (padded data).length = packetCount data * CHUNK := by
  rw [padded, List.length_append, List.length_replicate]
  unfold packetCount CHUNK
  omega

/-- A packet within the stream has eight bytes of data. -/
theorem chunk_length {i : Nat} (h : i < packetCount data) : (((padded data).drop (i * CHUNK)).take CHUNK).length = CHUNK := by
  rw [List.length_take, List.length_drop, padded_length]
  unfold CHUNK
  omega

/-- The chunks so far, and the next one. -/
theorem take_chunk (i : Nat) : (padded data).take (i * CHUNK) ++ ((padded data).drop (i * CHUNK)).take CHUNK =
    (padded data).take ((i + 1) * CHUNK) := by
  rw [← List.take_add, Nat.succ_mul]

/-- What a receiver has after so many packets. -/
def afterPackets (data : Bytes) (i : Nat) : StreamRx :=
  if i = 0 then .waiting
  else if i = packetCount data then .complete (padded data)
  else .gathering ((padded data).take (i * CHUNK)) (packetCount data - i)

theorem gathered_streamBody {i : Nat} (h : i < packetCount data) :
    StreamRx.gathered ((padded data).take ((i + 1) * CHUNK))
      ⟨decide (i = 0), decide (i = packetCount data - 1), packetCount data - 1 - i⟩ = afterPackets data (i + 1) := by
  unfold StreamRx.gathered afterPackets
  rw [if_neg (Nat.succ_ne_zero i)]
  by_cases hlast : i + 1 = packetCount data
  · have hall : (padded data).take ((i + 1) * CHUNK) = padded data := by
      rw [hlast, ← padded_length, List.take_length]
    rw [if_pos (decide_eq_true (by omega)), if_pos (show packetCount data - 1 - i = 0 by omega), if_pos hlast, hall]
  · have hstop : ¬ decide (i = packetCount data - 1) = true := by
      simp only [decide_eq_true_eq]
      omega
    have hleft : packetCount data - 1 - i = packetCount data - (i + 1) := by omega
    rw [if_neg hstop, if_neg (show ¬ packetCount data - 1 - i = 0 by omega), if_neg hlast]
    exact congrArg _ hleft

/-- A packet on top of those before it. -/
theorem packet_streamBody (hcount : packetCount data ≤ 64) {i : Nat} (h : i < packetCount data) :
    (afterPackets data i).packet (streamBody data i) = afterPackets data (i + 1) := by
  have hctrl := decode_encodeStreamCtrl (decide (i = 0)) (decide (i = packetCount data - 1))
    (n := packetCount data - 1 - i) (by omega)
  have hlength : ¬ (((padded data).drop (i * CHUNK)).take CHUNK).length ≠ 8 := not_not_intro (chunk_length h)
  rw [← gathered_streamBody h]
  simp only [streamBody, StreamRx.packet, hctrl, hlength, if_false]
  by_cases hfirst : i = 0
  · subst hfirst
    rw [afterPackets, if_pos rfl, ← take_chunk, Nat.zero_mul, List.take_zero, List.nil_append]
    rfl
  · have hcounts : packetCount data - 1 - i + 1 = packetCount data - i := by omega
    rw [afterPackets, if_neg hfirst, if_neg (by omega), ← take_chunk]
    simp [hfirst, hcounts]

/-- A receiver that gets the packets in order. -/
theorem foldl_packets (hcount : packetCount data ≤ 64) {n : Nat} (hn : n ≤ packetCount data) :
    ((List.range n).map (streamBody data)).foldl StreamRx.packet .waiting = afterPackets data n := by
  induction n with
  | zero => rfl
  | succ n ih =>
    rw [List.range_succ, List.map_append, List.foldl_append, ih (by omega)]
    exact packet_streamBody hcount (by omega)

end Chunks

/-! ### What is received -/

theorem sendPackets_success {answers : Nat → SendOutcome} {datagrams : List Bytes} {i : Nat} {sent : List Bytes}
    (h : sendPackets answers i datagrams = (.success, sent)) : sent = datagrams := by
  induction datagrams generalizing i sent with
  | nil => exact (congrArg Prod.snd h).symm
  | cons d rest ih =>
    rw [sendPackets] at h
    split at h
    · cases hrest : sendPackets answers (i + 1) rest with
      | mk outcome sent' =>
        rw [hrest] at h
        obtain ⟨rfl, rfl⟩ := Prod.mk.inj h
        rw [ih hrest]
    · next hfailed =>
      exact absurd (congrArg Prod.fst h) hfailed

theorem sendPackets_total {answers : Nat → SendOutcome} (h : ∀ i, answers i = .success) (datagrams : List Bytes) (i : Nat) :
    sendPackets answers i datagrams = (.success, datagrams) := by
  induction datagrams generalizing i with
  | nil => rfl
  | cons d rest ih => rw [sendPackets, h, ih]

/-- Payloads of up to 128 bytes are accepted. -/
theorem sendStream_accepts {answers : Nat → SendOutcome} (h : ∀ i, answers i = .success) {recv3 payload : Bytes}
    (hrecv : recv3.length = 3) (hlength : payload.length ≤ 128) :
    ∃ sent, sendStream answers recv3 payload = (.ok .success, sent) := by
  have hfits : ¬ 16 < packetCount payload := by
    unfold packetCount CHUNK
    omega
  refine ⟨(List.range (packetCount payload)).map fun i => datagram OPC_STREAM recv3 (streamBody payload i), ?_⟩
  rw [sendStream, if_neg hfits, if_neg (not_not_intro hrecv), sendPackets_total h]

/-- What the packets of a stream are to be: together the payload and zeros up to the last packet's end, and each
with the number of those that follow it. -/
structure Reassembles (payload : Bytes) (bodies : List Bytes) : Prop where
  complete : ∃ zeros, bodies.foldl StreamRx.packet .waiting = .complete (payload ++ List.replicate zeros 0) ∧ zeros ≤ 8
  counts : ∀ i body, bodies[i]? = some body →
    ∃ ctrl data, body = ctrl :: data ∧ data.length = 8 ∧
      decodeStreamCtrl ctrl = ⟨i = 0, i + 1 = bodies.length, bodies.length - 1 - i⟩ ∧ bodies.length - 1 - i < 64

/-- **A stream that was sent is reassembled.** -/
theorem stream_reassembles {answers : Nat → SendOutcome} {recv3 payload : Bytes} {sent : List Bytes}
    (h : sendStream answers recv3 payload = (.ok .success, sent)) : Reassembles payload (sent.map bodyOf) := by
  unfold sendStream at h
  split at h
  · cases h
  · next hfits =>
    split at h
    · cases h
    · next hrecv =>
      have hlength : recv3.length = 3 := not_not.mp hrecv
      have hcount : packetCount payload ≤ 64 := by omega
      have hbodies : sent.map bodyOf = (List.range (packetCount payload)).map (streamBody payload) := by
        cases hrun : sendPackets answers 0
            ((List.range (packetCount payload)).map fun i => datagram OPC_STREAM recv3 (streamBody payload i)) with
        | mk outcome sent' =>
        rw [hrun] at h
        obtain ⟨houtcome, rfl⟩ := Prod.mk.inj h
        obtain rfl := Except.ok.inj houtcome
        rw [sendPackets_success hrun, List.map_map]
        refine List.map_congr_left fun i _ => ?_
        exact List.drop_left' (by simp [hlength])
      rw [hbodies]
      constructor
      · refine ⟨packetCount payload * CHUNK - payload.length, ?_, ?_⟩
        · have hpos := packetCount_pos payload
          rw [foldl_packets hcount (Nat.le_refl _), afterPackets, if_neg (by omega), if_pos rfl, padded]
        · unfold packetCount CHUNK
          omega
      · intro i body hbody
        rw [List.length_map, List.length_range]
        rw [List.getElem?_map] at hbody
        obtain ⟨j, hj, rfl⟩ := Option.map_eq_some_iff.mp hbody
        obtain ⟨hi, hget⟩ := List.getElem?_eq_some_iff.mp hj
        rw [List.length_range] at hi
        rw [List.getElem_range] at hget
        subst hget
        refine ⟨_, _, rfl, chunk_length hi, ?_, by omega⟩
        rw [decode_encodeStreamCtrl _ _ (by omega)]
        have hlast : i = packetCount payload - 1 ↔ i + 1 = packetCount payload := by omega
        simp only [hlast]

/-- Nine bytes, which need a second packet. -/
def nineBytes : Bytes := [1, 2, 3, 4, 5, 6, 7, 8, 9]

theorem stream_reassembles_nine :
    Reassembles nineBytes ((sendStream (fun _ => .success) [0x11, 0x22, 0x33] nineBytes).2.map bodyOf) :=
  @stream_reassembles (fun _ => .success) [0x11, 0x22, 0x33] nineBytes _ (by rfl)

end RaceLink.Wire
