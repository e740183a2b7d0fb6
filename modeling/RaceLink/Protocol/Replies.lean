import RaceLink.Domain.Devices
import RaceLink.Python.Value

/-! The replies of the nodes (`protocol/codec.py`, `protocol/packets.py`): a header of seven bytes, a body by its
opcode, and three bytes of the receiving radio behind it.

The structs of `racelink_proto.h` stand for what a node writes. A body reads as the fields of its struct, but for
the direction bit of the opcode that an ACK echoes; of an ACK the first bytes count, however long it is. -/
namespace RaceLink.Protocol
open Python Library Domain

/-! ### LoRa settings -/

/-- `RF_CONFIG_FIELDS` with a value each. -/
structure RfConfig where
  freqHz : Int
  bwKhzX10 : Int
  sf : Int
  crDen : Int
  syncWord : Int
  txPowerDbm : Int
  preamble : Int
deriving DecidableEq, Repr

namespace RfConfig

def entries (c : RfConfig) : List (String × Int) :=
  [("freq_hz", c.freqHz), ("bw_khz_x10", c.bwKhzX10), ("sf", c.sf), ("cr_den", c.crDen), ("sync_word", c.syncWord),
    ("tx_power_dbm", c.txPowerDbm), ("preamble", c.preamble)]

def dict (c : RfConfig) : Dict := c.entries.map fun e => (.str e.1, .int e.2)

/-- Each value fits its place in the body. -/
structure InRange (c : RfConfig) : Prop where
  freqHz : 0 ≤ c.freqHz ∧ c.freqHz ≤ 4294967295
  bwKhzX10 : 0 ≤ c.bwKhzX10 ∧ c.bwKhzX10 ≤ 65535
  sf : 0 ≤ c.sf ∧ c.sf ≤ 255
  crDen : 0 ≤ c.crDen ∧ c.crDen ≤ 255
  syncWord : 0 ≤ c.syncWord ∧ c.syncWord ≤ 255
  txPowerDbm : -128 ≤ c.txPowerDbm ∧ c.txPowerDbm ≤ 127
  preamble : 0 ≤ c.preamble ∧ c.preamble ≤ 65535

/-- `RF_CONFIG_STRUCT.pack`, for values that were masked: only the signed one can be out of range. -/
def pack (c : RfConfig) : Option Bytes :=
  if -128 ≤ c.txPowerDbm ∧ c.txPowerDbm ≤ 127 then
    some (le32 c.freqHz ++ le16 c.bwKhzX10 ++ [byte c.sf, byte c.crDen, byte c.syncWord, byte c.txPowerDbm] ++
      le16 c.preamble)
  else none

end RfConfig

/-- `int(rf_config[name])`, unless it raises. -/
def rfField (rfConfig : Dict) (name : String) : Option Int := (rfConfig.get? name).bind fun raw => raw.toInt.toOption

/-- `build_rf_config_body`, unless it raises. -/
def buildRfConfigBody (rfConfig : Dict) : Option Bytes := do
  let freqHz ← rfField rfConfig "freq_hz"
  let bwKhzX10 ← rfField rfConfig "bw_khz_x10"
  let sf ← rfField rfConfig "sf"
  let crDen ← rfField rfConfig "cr_den"
  let syncWord ← rfField rfConfig "sync_word"
  let txPowerDbm ← rfField rfConfig "tx_power_dbm"
  let preamble ← rfField rfConfig "preamble"
  RfConfig.pack ⟨freqHz % 4294967296, bwKhzX10 % 65536, sf % 256, crDen % 256, syncWord % 256, txPowerDbm,
    preamble % 65536⟩

/-- `unpack_rf_config_body` of a body of twelve bytes. -/
def unpackRfConfigBody : Bytes → Option RfConfig
  | [f0, f1, f2, f3, bw0, bw1, sf, crDen, syncWord, txPower, preamble0, preamble1] =>
    some ⟨readU32 f0 f1 f2 f3, readU16 bw0 bw1, sf.toNat, crDen.toNat, syncWord.toNat, readI8 txPower,
      readU16 preamble0 preamble1⟩
  | _ => none

/-! ### Bodies -/

def OPC_DEVICES : UInt8 := 0x01
def OPC_STATUS : UInt8 := 0x03
def OPC_GET_CONFIG : UInt8 := 0x0A
def OPC_GET_RF_CONFIG : UInt8 := 0x0E
def OPC_ACK : UInt8 := 0x7E

/-- `opcode_name`. -/
def opcodeName (opcode7 : UInt8) : String :=
  let names : List (UInt8 × String) :=
    [(1, "DEVICES/IDENTIFY"), (2, "SET_GROUP"), (3, "STATUS"), (4, "PRESET"), (8, "CONTROL"), (5, "CONFIG"),
      (6, "SYNC"), (9, "OFFSET"), (7, "STREAM_M2N"), (10, "GET_CONFIG"), (11, "HEADLESS"), (12, "INDICATE"),
      (13, "RF_CONFIG"), (14, "GET_RF_CONFIG")]
  (names.lookup opcode7).getD ("0x" ++ hexUpper [opcode7])

structure StatusReply where
  flags : Int
  configByte : Int
  effectId : Int
  brightness : Int
  vbatMV : Int
  nodeRssi : Int
  nodeSnr : Int
deriving DecidableEq, Repr

/-- What an event says besides its header: decoded fields, or the body as it came. -/
inductive ReplyFields where
  | identify (fields : Identify)
  | status (fields : StatusReply)
  | getConfig (option data0 data1 data2 data3 : Int)
  | getRfConfig (rfConfig : Dict)
  | ack (ackOf ackStatus : Int) (ackSeq : Option Int)
  | bodyRaw (reply : String) (body : Bytes)
deriving DecidableEq, Repr

/-- The STATUS branch; seven bytes are the older form without the config byte. -/
def parseStatus : Bytes → ReplyFields
  | [flags, configByte, effectId, brightness, vbat0, vbat1, rssi, snr] =>
    .status ⟨flags.toNat, configByte.toNat, effectId.toNat, brightness.toNat, readU16 vbat0 vbat1, readI8 rssi, readI8 snr⟩
  | [flags, effectId, brightness, vbat0, vbat1, rssi, snr] =>
    .status ⟨flags.toNat, 0, effectId.toNat, brightness.toNat, readU16 vbat0 vbat1, readI8 rssi, readI8 snr⟩
  | body => .bodyRaw "STATUS_REPLY" body

def parseGetConfig : Bytes → ReplyFields
  | [option, data0, data1, data2, data3] => .getConfig option.toNat data0.toNat data1.toNat data2.toNat data3.toNat
  | body => .bodyRaw "GET_CONFIG_REPLY" body

/-- The ACK branch takes what it needs from the front. -/
def parseAck : Bytes → ReplyFields
  | ackOf :: ackStatus :: rest => .ack (ackOf.toNat % 128) ackStatus.toNat (rest.head?.map fun seq => (seq.toNat : Int))
  | body => .bodyRaw "ACK" body

/-- The branches of `parse_reply_event`. -/
def parseFields (opc : UInt8) (body : Bytes) : ReplyFields :=
  if opc = OPC_DEVICES then
    match parseIdentify body with
    | some fields => .identify fields
    | none => .bodyRaw "IDENTIFY_REPLY" body
  else if opc = OPC_STATUS then parseStatus body
  else if opc = OPC_GET_CONFIG then parseGetConfig body
  else if opc = OPC_GET_RF_CONFIG then
    match unpackRfConfigBody body with
    | some rfConfig => .getRfConfig rfConfig.dict
    | none => .bodyRaw "GET_RF_CONFIG_REPLY" body
  else if opc = OPC_ACK then parseAck body
  else .bodyRaw (opcodeName opc) body

/-! ### Events -/

/-- The event of a reply, without its time. -/
structure WireReply where
  typeByte : UInt8
  dir : UInt8
  opc : UInt8
  sender3 : Bytes
  receiver3 : Bytes
  hostRssi : Int
  hostSnr : Int
  fields : ReplyFields
deriving DecidableEq, Repr

/-- `data[:-3]`. -/
def dropTrailer (data : Bytes) : Bytes := data.take (data.length - 3)

/-- `parse_reply_event`. -/
def parseReplyEvent (typeByte : UInt8) (data : Bytes) (hostRssi hostSnr : Int) : WireReply where
  typeByte := typeByte
  dir := typeByte &&& 0x80
  opc := typeByte &&& 0x7F
  sender3 := (data.take 7).take 3
  receiver3 := ((data.take 7).take 6).drop 3
  hostRssi := hostRssi
  hostSnr := hostSnr
  fields := parseFields (typeByte &&& 0x7F) ((dropTrailer data).drop 7)

/-! ### What the nodes write -/

/-- A reply struct of `racelink_proto.h`. -/
inductive NodeReply where
  | identify (fw caps groupId : UInt8) (mac6 : Vector UInt8 6)
  | status (flags configByte effectId brightness : UInt8) (vbatMV : UInt16) (rssi snr : Int8)
  | config (option data0 data1 data2 data3 : UInt8)
  | rfConfig (freqHz : UInt32) (bwKhzX10 : UInt16) (sf crDen syncWord : UInt8) (txPowerDbm : Int8) (preamble : UInt16)
  | ack (echoOpcode7 status seq : UInt8)
deriving DecidableEq, Repr

namespace NodeReply

def opcode : NodeReply → UInt8
  | identify .. => OPC_DEVICES
  | status .. => OPC_STATUS
  | config .. => OPC_GET_CONFIG
  | rfConfig .. => OPC_GET_RF_CONFIG
  | ack .. => OPC_ACK

/-- The packed struct. -/
def body : NodeReply → Bytes
  | identify fw caps groupId mac6 => [fw, caps, groupId] ++ mac6.toList
  | status flags configByte effectId brightness vbatMV rssi snr =>
    [flags, configByte, effectId, brightness] ++ le16 vbatMV.toNat ++ [byte rssi.toInt, byte snr.toInt]
  | config option data0 data1 data2 data3 => [option, data0, data1, data2, data3]
  | rfConfig freqHz bwKhzX10 sf crDen syncWord txPowerDbm preamble =>
    le32 freqHz.toNat ++ le16 bwKhzX10.toNat ++ [sf, crDen, syncWord, byte txPowerDbm.toInt] ++ le16 preamble.toNat
  | ack echoOpcode7 ackStatus seq => [echoOpcode7, ackStatus, seq]

/-- The values of the struct, the echoed opcode without its direction. -/
def fields : NodeReply → ReplyFields
  | identify fw caps groupId mac6 => .identify ⟨fw.toNat, caps.toNat, groupId.toNat, mac6.toList⟩
  | status flags configByte effectId brightness vbatMV rssi snr =>
    .status ⟨flags.toNat, configByte.toNat, effectId.toNat, brightness.toNat, vbatMV.toNat, rssi.toInt, snr.toInt⟩
  | config option data0 data1 data2 data3 => .getConfig option.toNat data0.toNat data1.toNat data2.toNat data3.toNat
  | rfConfig freqHz bwKhzX10 sf crDen syncWord txPowerDbm preamble =>
    .getRfConfig (RfConfig.dict ⟨freqHz.toNat, bwKhzX10.toNat, sf.toNat, crDen.toNat, syncWord.toNat, txPowerDbm.toInt,
      preamble.toNat⟩)
  | ack echoOpcode7 ackStatus seq => .ack (echoOpcode7.toNat % 128) ackStatus.toNat (some seq.toNat)

end NodeReply

/-! ### What is read of it -/

theorem readI8_toInt (x : Int8) : readI8 (byte x.toInt) = x.toInt := by
  have hlow := x.le_toInt
  have hhigh := x.toInt_lt
  exact readI8_byte (by omega) (by omega)

theorem readU16_toNat (x : UInt16) : readU16 (byte x.toNat) (byte (x.toNat / 256)) = x.toNat := by
  have h := x.toNat_lt
  exact readU16_le16 (by omega) (by omega)

/-- Settings that are in range are read as they were packed. -/
theorem unpackRfConfigBody_pack {c : RfConfig} (h : c.InRange) :
    ∃ body, c.pack = some body ∧ unpackRfConfigBody body = some c := by
  refine ⟨_, if_pos h.txPowerDbm, ?_⟩
  obtain ⟨freqHz, bwKhzX10, sf, crDen, syncWord, txPowerDbm, preamble⟩ := c
  simp only [le32, le16, List.cons_append, List.nil_append, unpackRfConfigBody]
  rw [readU32_le32 h.freqHz.1 h.freqHz.2, readU16_le16 h.bwKhzX10.1 h.bwKhzX10.2, readU16_le16 h.preamble.1 h.preamble.2,
    readI8_byte h.txPowerDbm.1 h.txPowerDbm.2, byte_fits h.sf.1 h.sf.2, byte_fits h.crDen.1 h.crDen.2,
    byte_fits h.syncWord.1 h.syncWord.2]

/-- The body of a configuration in range, read back. -/
theorem unpack_buildRfConfigBody {rfConfig : Dict} {c : RfConfig} (hread : ∀ e ∈ c.entries, rfField rfConfig e.1 = some e.2)
    (h : c.InRange) : ∃ body, buildRfConfigBody rfConfig = some body ∧ unpackRfConfigBody body = some c := by
  obtain ⟨body, hpack, hunpack⟩ := unpackRfConfigBody_pack h
  refine ⟨body, ?_, hunpack⟩
  obtain ⟨freqHz, bwKhzX10, sf, crDen, syncWord, txPowerDbm, preamble⟩ := c
  obtain ⟨hfreqHz, hbwKhzX10, hsf, hcrDen, hsyncWord, htxPowerDbm, hpreamble⟩ :
      rfField rfConfig "freq_hz" = some freqHz ∧ rfField rfConfig "bw_khz_x10" = some bwKhzX10 ∧
      rfField rfConfig "sf" = some sf ∧ rfField rfConfig "cr_den" = some crDen ∧
      rfField rfConfig "sync_word" = some syncWord ∧ rfField rfConfig "tx_power_dbm" = some txPowerDbm ∧
      rfField rfConfig "preamble" = some preamble := by
    simpa [RfConfig.entries] using hread
  simp only [buildRfConfigBody, hfreqHz, hbwKhzX10, hsf, hcrDen, hsyncWord, htxPowerDbm, hpreamble, Option.bind_eq_bind,
    Option.bind_some]
  have hmasked : freqHz % 4294967296 = freqHz ∧ bwKhzX10 % 65536 = bwKhzX10 ∧ sf % 256 = sf ∧ crDen % 256 = crDen ∧
      syncWord % 256 = syncWord ∧ preamble % 65536 = preamble := by
    have h1 := h.freqHz
    have h2 := h.bwKhzX10
    have h3 := h.sf
    have h4 := h.crDen
    have h5 := h.syncWord
    have h6 := h.preamble
    dsimp only at h1 h2 h3 h4 h5 h6
    omega
  simpa only [hmasked] using hpack

theorem parseFields_status (body : Bytes) : parseFields OPC_STATUS body = parseStatus body := rfl

theorem parseFields_rfConfig {body : Bytes} {c : RfConfig} (h : unpackRfConfigBody body = some c) :
    parseFields OPC_GET_RF_CONFIG body = .getRfConfig c.dict := by
  show (match unpackRfConfigBody body with
    | some rfConfig => ReplyFields.getRfConfig rfConfig.dict
    | none => .bodyRaw "GET_RF_CONFIG_REPLY" body) = _
  rw [h]

/-- A struct reads as its fields. -/
theorem parseFields_body (r : NodeReply) : parseFields r.opcode r.body = r.fields := by
  cases r with
  | identify fw caps groupId mac6 =>
    have hmac : mac6.toList.length = 6 := by simp
    simp [NodeReply.opcode, NodeReply.body, NodeReply.fields, parseFields, parseIdentify, hmac]
  | status flags configByte effectId brightness vbatMV rssi snr =>
    rw [NodeReply.opcode, parseFields_status]
    simp only [NodeReply.body, le16, List.cons_append, List.nil_append, parseStatus, readU16_toNat, readI8_toInt]
    rfl
  | config option data0 data1 data2 data3 => rfl
  | rfConfig freqHz bwKhzX10 sf crDen syncWord txPowerDbm preamble =>
    have hfreq := freqHz.toNat_lt
    have hread : unpackRfConfigBody (NodeReply.rfConfig freqHz bwKhzX10 sf crDen syncWord txPowerDbm preamble).body =
        some ⟨freqHz.toNat, bwKhzX10.toNat, sf.toNat, crDen.toNat, syncWord.toNat, txPowerDbm.toInt, preamble.toNat⟩ := by
      simp only [NodeReply.body, le32, le16, List.cons_append, List.nil_append, unpackRfConfigBody, readU16_toNat,
        readI8_toInt]
      rw [readU32_le32 (by omega) (by omega)]
    exact parseFields_rfConfig hread
  | ack echoOpcode7 ackStatus seq => rfl

/-! ### Other lengths -/

/-- The lengths of a body that are decoded. -/
def Decoded (opc : UInt8) (length : Nat) : Prop :=
  (opc = OPC_DEVICES ∧ length = 9) ∨ (opc = OPC_STATUS ∧ (length = 7 ∨ length = 8)) ∨ (opc = OPC_GET_CONFIG ∧ length = 5) ∨
    (opc = OPC_GET_RF_CONFIG ∧ length = 12) ∨ opc = OPC_ACK ∧ 2 ≤ length

theorem parseIdentify_none {body : Bytes} (h : body.length ≠ 9) : parseIdentify body = none := by
  unfold parseIdentify
  split
  · rw [if_neg]
    intro hmac
    exact h (by rw [List.length_cons, List.length_cons, List.length_cons, hmac])
  · rfl

theorem parseStatus_raw {body : Bytes} (h : body.length ≠ 7) (h' : body.length ≠ 8) :
    parseStatus body = .bodyRaw "STATUS_REPLY" body := by
  unfold parseStatus
  split
  · exact absurd rfl h'
  · exact absurd rfl h
  · rfl

theorem parseGetConfig_raw {body : Bytes} (h : body.length ≠ 5) :
    parseGetConfig body = .bodyRaw "GET_CONFIG_REPLY" body := by
  unfold parseGetConfig
  split
  · exact absurd rfl h
  · rfl

theorem unpackRfConfigBody_none {body : Bytes} (h : body.length ≠ 12) : unpackRfConfigBody body = none := by
  unfold unpackRfConfigBody
  split
  · exact absurd rfl h
  · rfl

theorem parseAck_raw {body : Bytes} (h : ¬ 2 ≤ body.length) : parseAck body = .bodyRaw "ACK" body := by
  unfold parseAck
  split
  · exact absurd (by simp) h
  · rfl

/-- A body of another length is handed on as it is. -/
theorem parseFields_bodyRaw {opc : UInt8} {body : Bytes} (h : ¬ Decoded opc body.length) :
    ∃ reply, parseFields opc body = .bodyRaw reply body := by
  simp only [Decoded, not_or, not_and] at h
  obtain ⟨hidentify, hstatus, hconfig, hrf, hack⟩ := h
  unfold parseFields
  by_cases h1 : opc = OPC_DEVICES
  · exact ⟨_, by rw [if_pos h1, parseIdentify_none (hidentify h1)]⟩
  · by_cases h2 : opc = OPC_STATUS
    · exact ⟨_, by rw [if_neg h1, if_pos h2, parseStatus_raw (hstatus h2).1 (hstatus h2).2]⟩
    · by_cases h3 : opc = OPC_GET_CONFIG
      · exact ⟨_, by rw [if_neg h1, if_neg h2, if_pos h3, parseGetConfig_raw (hconfig h3)]⟩
      · by_cases h4 : opc = OPC_GET_RF_CONFIG
        · exact ⟨_, by rw [if_neg h1, if_neg h2, if_neg h3, if_pos h4, unpackRfConfigBody_none (hrf h4)]⟩
        · by_cases h5 : opc = OPC_ACK
          · exact ⟨_, by rw [if_neg h1, if_neg h2, if_neg h3, if_neg h4, if_pos h5, parseAck_raw (hack h5)]⟩
          · exact ⟨_, by rw [if_neg h1, if_neg h2, if_neg h3, if_neg h4, if_neg h5]⟩

end RaceLink.Protocol
