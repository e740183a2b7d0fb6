import RaceLink.Gateways.Rf
import RaceLink.Library.Keyed
import RaceLink.Routing.Host

/-! What the gateway workflow keeps: the networks, the attached transports with the
network stamped on each, and the bind records (`services/gateway_bind_service.py`).

A binding stands in all three places. The operations here are the single writes;
who makes which of them in what order is in `Bind` and `Networks`. -/
namespace RaceLink.Gateways
open Python Library Domain Routing

inductive BindState where
  | pending
  | bound
  | conflict
  | unbound
deriving DecidableEq, Repr

def BindState.value : BindState → String
  | .pending => "pending"
  | .bound => "bound"
  | .conflict => "conflict"
  | .unbound => "unbound"

/-- `BindRecord`, without the time of the evaluation. -/
structure BindRecord where
  identMac : String
  state : BindState := .pending
  networkId : Option String := none
  networkName : Option String := none
  rfConfigActual : Option Dict := none
  rfConfigExpected : Option Dict := none
  conflictFields : List String := []
  migrationPending : Bool := false
  token : String
deriving DecidableEq, Repr

/-- An attached transport and its kind. -/
structure Attached extends Transport where
  kind : NetworkKind
deriving DecidableEq, Repr

/-- The `ident_mac` as it is compared. -/
def Attached.ident (t : Attached) : String := upper t.identMac

/-- The repositories, the transports, the bind records, and how often the state file
was written. -/
structure State where
  networks : List NetworkRecord
  devices : List DeviceRecord
  groups : List GroupRecord
  transports : List Attached
  records : List BindRecord
  saves : Nat
deriving DecidableEq, Repr

namespace State

/-- What routing sees. -/
def host (s : State) : Host where
  networks := s.networks.map (·.toNetwork)
  groups := s.groups.map (·.toDeviceGroup)
  devices := s.devices.map (·.toDevice)
  transports := s.transports.map (·.toTransport)

/-- `network_repository.get_by_id`. -/
def networkById (s : State) (networkId : String) : Option NetworkRecord :=
  if networkId = "" then none else findKey (·.id) networkId s.networks

/-- `network_repository.get_by_gateway_mac`. -/
def networkByGatewayMac (s : State) (gatewayMac : String) : Option NetworkRecord :=
  if gatewayMac = "" then none
  else s.networks.find? fun n => upper (n.gatewayMac.getD "") == upper gatewayMac

/-- `_transport_for`. -/
def transportFor (s : State) (identMac : String) : Option Attached :=
  s.transports.find? fun t => t.ident == upper identMac

/-- The bind record of a gateway. -/
def recordFor (s : State) (identMac : String) : Option BindRecord :=
  findKey (·.identMac) (upper identMac) s.records

/-- `save_to_db`. -/
def save (s : State) : State := {s with saves := s.saves + 1}

def putRecord (s : State) (record : BindRecord) : State :=
  {s with records := putKey (·.identMac) record s.records}

/-- `forget`. -/
def forget (s : State) (identMac : String) : State :=
  {s with records := s.records.filter fun r => r.identMac ≠ upper identMac}

/-- A change of one network. -/
def changeNetwork (s : State) (networkId : String) (f : NetworkRecord → NetworkRecord) : State :=
  {s with networks := updateKey (·.id) networkId f s.networks}

/-- `network.rf_config = dict(cfg)`. -/
def setRfConfig (s : State) (networkId : String) (cfg : Option Dict) : State :=
  s.changeNetwork networkId fun n => {n with rfConfig := cfg}

/-- `network.gateway_mac = mac`. -/
def setGatewayMac (s : State) (networkId : String) (gatewayMac : Option String) : State :=
  s.changeNetwork networkId fun n => {n with gatewayMac}

/-- A network that lets go of a gateway, unless it is the one to keep. -/
def released (identMac : String) (keep : Option String) (n : NetworkRecord) : NetworkRecord :=
  if keep ≠ some n.id ∧ upper (n.gatewayMac.getD "") = upper identMac then {n with gatewayMac := none} else n

/-- `_release_ident_from_networks`. -/
def releaseIdent (s : State) (identMac : String) (keep : Option String) : State :=
  {s with networks := s.networks.map (released identMac keep)}

/-- The first transport with an ident is stamped. -/
def stampFirst (ident : String) (networkId : Option String) : List Attached → List Attached
  | [] => []
  | t :: rest =>
    if t.ident = ident then {t with networkId} :: rest else t :: stampFirst ident networkId rest

/-- `_bind_transport_to_network` of the bind service. -/
def stampTransport (s : State) (identMac networkId : String) : State :=
  {s with transports := stampFirst (upper identMac) (some networkId) s.transports}

end State

/-! ### Idents -/

theorem upperChar_capital : ∀ n : Fin 26, upperChar (Char.ofNat (65 + n)) = [Char.ofNat (65 + n)] := by
  decide

theorem upperChar_idem {c d : Char} (h : d ∈ upperChar c) : upperChar d = [d] := by
  unfold upperChar at h
  split at h
  · next hlow =>
    obtain rfl := List.mem_singleton.mp h
    have h1 : 97 ≤ c.toNat := hlow.1
    have h2 : c.toNat ≤ 122 := hlow.2
    have hcapital := upperChar_capital ⟨c.toNat - 97, by omega⟩
    have hn : c.toNat - 32 = 65 + (c.toNat - 97) := by omega
    rw [hn]
    exact hcapital
  · split at h
    · have hd : d = 'F' := by simpa using h
      rw [hd]
      decide
    · next hlow hff =>
      obtain rfl := List.mem_singleton.mp h
      rw [upperChar, if_neg hlow, if_neg hff]

theorem upper_toList (s : String) : (upper s).toList = s.toList.flatMap upperChar := by
  rw [upper, String.toList_ofList]

/-- `upper` leaves what it made. -/
theorem upper_upper (s : String) : upper (upper s) = upper s := by
  refine upper_of_fixed fun c hc => ?_
  rw [upper_toList] at hc
  obtain ⟨d, -, hd⟩ := List.mem_flatMap.mp hc
  exact upperChar_idem hd

theorem upper_empty : upper "" = "" := by
  simp [upper]

theorem upper_ne_empty {s : String} (h : s ≠ "") : upper s ≠ "" := by
  obtain ⟨c, hc⟩ := List.exists_mem_of_ne_nil s.toList fun hnil => h (String.toList_eq_nil_iff.mp hnil)
  have hupper : ∃ d, d ∈ upperChar c := by
    unfold upperChar
    split
    · exact ⟨_, List.mem_singleton_self _⟩
    · split
      · exact ⟨'F', by decide⟩
      · exact ⟨_, List.mem_singleton_self _⟩
  obtain ⟨d, hd⟩ := hupper
  intro hempty
  have hmem : d ∈ (upper s).toList := by
    rw [upper_toList]
    exact List.mem_flatMap.mpr ⟨c, hc, hd⟩
  rw [hempty] at hmem
  cases hmem

end RaceLink.Gateways
