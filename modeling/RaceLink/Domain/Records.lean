import RaceLink.Domain.Models
import RaceLink.Python.Value

/-! The records of `domain/models.py` with the fields that the gateway wizard, the
migrations and the state file read and write. Routing reads the part in `Models`. -/
namespace RaceLink.Domain
open Python

/-- `RL_Device`, without what a reload forgets (voltages, signal strengths, the last ack). -/
structure DeviceRecord extends Device where
  name : String
  devType : Int
  version : Int
  caps : Int
  flags : Int
  presetId : Int
  brightness : Int
  specials : Dict
  lastKnownRfConfig : Option Dict
  linkOnline : Bool
deriving DecidableEq, Repr

/-- `RL_DeviceGroup`. -/
structure GroupRecord extends DeviceGroup where
  name : String
  staticGroup : Int
  devType : Int
deriving DecidableEq, Repr

/-- `RL_Network`. The id is a UUID, so a network is told from the others by it. -/
structure NetworkRecord extends Network where
  name : String
  region : String
  channelId : Option Int
  rfConfig : Option Dict
  ethConfig : Option Dict
  createdTs : PyFloat
deriving DecidableEq, Repr

end RaceLink.Domain
