import Mathlib.Data.Int.Notation

/-! The packet rules (`racelink_proto_auto.py` and `protocol/rules.py`): which opcode is a
request of the host, and what answers it. -/
namespace RaceLink.Protocol

def DIR_M2N : Int := 0
def DIR_N2M : Int := 128

/-- What answers a request: nothing, an ACK, or a reply of its own. -/
inductive RespPolicy where
  | none
  | ack
  | specific
deriving DecidableEq, Repr

structure PacketRule where
  opcode7 : Int
  reqDir : Int
  policy : RespPolicy
  rspOpcode7 : Int
deriving DecidableEq, Repr

/-- `RULES`. -/
def RULES : List PacketRule :=
  [ ⟨1, DIR_M2N, .specific, 1⟩
  , ⟨2, DIR_M2N, .ack, 126⟩
  , ⟨3, DIR_M2N, .specific, 3⟩
  , ⟨4, DIR_M2N, .none, 0⟩
  , ⟨8, DIR_M2N, .none, 0⟩
  , ⟨5, DIR_M2N, .ack, 126⟩
  , ⟨6, DIR_M2N, .none, 0⟩
  , ⟨9, DIR_M2N, .none, 0⟩
  , ⟨7, DIR_M2N, .ack, 126⟩
  , ⟨10, DIR_M2N, .specific, 10⟩
  , ⟨11, DIR_M2N, .none, 0⟩
  , ⟨12, DIR_M2N, .none, 0⟩
  , ⟨13, DIR_M2N, .ack, 126⟩
  , ⟨14, DIR_M2N, .specific, 14⟩ ]

/-- `find_rule`. -/
def findRule (opcode7 : Int) : Option PacketRule := RULES.find? fun r => r.opcode7 == opcode7 % 128

/-- `response_policy`. -/
def responsePolicy (opcode7 : Int) : RespPolicy := ((findRule opcode7).map (·.policy)).getD .none

/-- `response_opcode`. -/
def responseOpcode (opcode7 : Int) : Int := ((findRule opcode7).map fun r => r.rspOpcode7 % 128).getD (-1)

/-- `request_direction`. -/
def requestDirection (opcode7 : Int) : Int := ((findRule opcode7).map (·.reqDir)).getD DIR_M2N

end RaceLink.Protocol
