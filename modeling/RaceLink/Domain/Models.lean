/-! What the host keeps of devices, groups and networks (`domain/models.py`), as far
as scenes and routing read it. A group's id is its index in the list of groups. -/
namespace RaceLink.Domain

/-- `RL_Device`. The address is the MAC in upper-case hex. -/
structure Device where
  addr : String
  groupId : Int
  networkId : Option String
deriving DecidableEq, Repr

/-- `RL_DeviceGroup`. -/
structure DeviceGroup where
  networkId : Option String
deriving DecidableEq, Repr

inductive NetworkKind where
  | rf
  | ethernet
deriving DecidableEq, Repr

/-- `RL_Network`. -/
structure Network where
  id : String
  kind : NetworkKind
  gatewayMac : Option String
deriving DecidableEq, Repr

end RaceLink.Domain
