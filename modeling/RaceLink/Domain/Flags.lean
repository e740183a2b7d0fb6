import RaceLink.Python.Value

/-! The behaviour flags of OPC_PRESET and OPC_CONTROL (`domain/flags.py`). -/
namespace RaceLink.Domain

/-- `USER_FLAG_KEYS`: the flags an operator sets; the other two follow from the brightness. -/
inductive UserFlag where
  | armOnSync
  | forceTt0
  | forceReapply
  | offsetMode
deriving DecidableEq, Repr

namespace UserFlag

def key : UserFlag → String
  | .armOnSync => "arm_on_sync"
  | .forceTt0 => "force_tt0"
  | .forceReapply => "force_reapply"
  | .offsetMode => "offset_mode"

end UserFlag

def RL_FLAG_POWER_ON : Nat := 0x01
def RL_FLAG_ARM_ON_SYNC : Nat := 0x02
def RL_FLAG_HAS_BRI : Nat := 0x04
def RL_FLAG_FORCE_TT0 : Nat := 0x08
def RL_FLAG_FORCE_REAPPLY : Nat := 0x10
def RL_FLAG_OFFSET_MODE : Nat := 0x20

/-- One bit of the flags byte. -/
def flagBit (set : Bool) (bit : Nat) : Nat := if set then bit else 0

/-- `build_flags_byte`. -/
def buildFlagsByte (powerOn hasBri armOnSync forceTt0 forceReapply offsetMode : Bool) : Nat :=
  flagBit powerOn RL_FLAG_POWER_ON ||| flagBit armOnSync RL_FLAG_ARM_ON_SYNC |||
    flagBit hasBri RL_FLAG_HAS_BRI ||| flagBit forceTt0 RL_FLAG_FORCE_TT0 |||
    flagBit forceReapply RL_FLAG_FORCE_REAPPLY ||| flagBit offsetMode RL_FLAG_OFFSET_MODE

/-- The device reads the OFFSET_MODE flag it was sent. -/
theorem buildFlagsByte_offsetMode (powerOn hasBri armOnSync forceTt0 forceReapply offsetMode : Bool) :
    (buildFlagsByte powerOn hasBri armOnSync forceTt0 forceReapply offsetMode).testBit 5 =
      offsetMode := by
  revert powerOn hasBri armOnSync forceTt0 forceReapply offsetMode
  decide

end RaceLink.Domain
