import RaceLink.Protocol.Packets

/-! What a wait for a reply expects, and which events it accepts
(`services/pending_requests.py`, with the events of `protocol/codec.py`). -/
namespace RaceLink.Pending
open Python Library Protocol

def OPC_STATUS : Int := 3
def OPC_STREAM : Int := 7
def OPC_ACK : Int := 126

def ACK_OK : Int := 0

/-- A field of a reply, as far as a wait compares it. -/
inductive EvValue where
  | int (n : Int)
  | str (s : String)
deriving DecidableEq, Repr

/-- `int(x)`, where it does not raise. -/
def EvValue.toInt : EvValue → Option Int
  | .int n => some n
  | .str s => intOfStr s

/-- A reply event of a transport. `ackOf` is there for a complete ACK only. -/
structure ReplyEvent where
  gatewayId : Option String
  sender3 : Option Bytes
  opc : Option Int
  ackOf : Option Int
  fields : List (String × EvValue)
deriving DecidableEq, Repr

/-- `int(ev.get("opc", -1)) & 0x7F`. -/
def ReplyEvent.opc7 (ev : ReplyEvent) : Int := ev.opc.getD (-1) % 128

/-- `PendingMatcher`, without the times it waits. -/
structure PendingMatcher where
  senderFilter : Option (List Bytes)
  expectedOpcode : Option Int
  expectedAckOf : Option Int
  discriminator : Option (String × Option EvValue)
  gatewayId : Option String
  expectedCount : Int
deriving DecidableEq, Repr

namespace PendingMatcher

/-- The filter on the gateway. -/
def acceptsGateway (m : PendingMatcher) (ev : ReplyEvent) : Bool :=
  match m.gatewayId with
  | none => true
  | some gatewayId => ev.gatewayId == some gatewayId

/-- The filter on the sender. -/
def acceptsSender (m : PendingMatcher) (ev : ReplyEvent) : Bool :=
  match m.senderFilter with
  | none => true
  | some senders => ev.sender3.any (· ∈ senders)

/-- The filter on what is answered: an ACK of a request, or an opcode. -/
def acceptsOpcode (m : PendingMatcher) (ev : ReplyEvent) : Bool :=
  match m.expectedAckOf with
  | some ackOf => ev.opc7 == OPC_ACK && ev.ackOf.getD (-1) == ackOf
  | none =>
    match m.expectedOpcode with
    | some opcode => ev.opc7 == opcode
    | none => true

/-- The filter on one more field: an integer is compared as such, anything else as it is. -/
def acceptsField (m : PendingMatcher) (ev : ReplyEvent) : Bool :=
  match m.discriminator with
  | none => true
  | some (field, value) =>
    match ev.fields.lookup field, value with
    | none, _ => false
    | some _, none => false
    | some evValue, some (.int n) => evValue.toInt == some n
    | some evValue, some (.str s) => evValue == .str s

/-- `matches`. -/
def accepts (m : PendingMatcher) (ev : ReplyEvent) : Bool :=
  m.acceptsGateway ev && m.acceptsSender ev && m.acceptsOpcode ev && m.acceptsField ev

/-- `_unicast_key`: the bucket of a wait for one sender and one kind of reply. -/
def unicastKey (m : PendingMatcher) : Option (Bytes × Int) :=
  match m.senderFilter with
  | some [sender] => (m.expectedAckOf.or m.expectedOpcode).map fun key => (sender, key % 128)
  | _ => none

/-- A wait for a named sender says on which gateway, or `register` raises. -/
def registrable (m : PendingMatcher) : Bool := m.senderFilter.isNone || m.gatewayId.isSome

/-- Enough replies for `done`. -/
def complete (m : PendingMatcher) (collected : List ReplyEvent) : Bool :=
  m.expectedCount ≤ collected.length

end PendingMatcher

/-- The buckets of an event's sender: for an ACK that of its request first, then that of the opcode. -/
def ReplyEvent.keys (ev : ReplyEvent) : List (Bytes × Int) :=
  match ev.sender3 with
  | none => []
  | some sender =>
    (if ev.opc7 = OPC_ACK then ev.ackOf.toList.map fun ackOf => (sender, ackOf % 128) else []) ++
      [(sender, ev.opc7)]

/-- A wait that does not ask for the ACKs of one sender without saying of what, and whose request
is not the number that stands for none. -/
structure PendingMatcher.Regular (m : PendingMatcher) : Prop where
  ackOfSomething : m.unicastKey ≠ none → m.expectedAckOf = none → m.expectedOpcode ≠ some OPC_ACK
  request : m.unicastKey ≠ none → m.expectedAckOf ≠ some (-1)

/-- The first of an event's buckets is the only one in which a regular wait can accept it. -/
theorem PendingMatcher.Regular.key {m : PendingMatcher} (h : m.Regular) {ev : ReplyEvent}
    (haccepts : m.accepts ev = true) {key : Bytes × Int} (hkey : m.unicastKey = some key) :
    ev.keys.head? = some key := by
  have hsome : m.unicastKey ≠ none := by simp [hkey]
  obtain ⟨⟨⟨-, hsender⟩, hopcode⟩, -⟩ : ((m.acceptsGateway ev = true ∧ m.acceptsSender ev = true) ∧
      m.acceptsOpcode ev = true) ∧ m.acceptsField ev = true := by
    simpa only [accepts, Bool.and_eq_true] using haccepts
  unfold unicastKey at hkey
  split at hkey
  · next sender hfilter =>
    have hfrom : ev.sender3 = some sender := by
      rw [acceptsSender, hfilter] at hsender
      cases hs : ev.sender3 with
      | none =>
        rw [hs] at hsender
        cases hsender
      | some s =>
        rw [hs] at hsender
        simpa using hsender
    obtain ⟨number, hnumber, rfl⟩ := Option.map_eq_some_iff.mp hkey
    unfold acceptsOpcode at hopcode
    cases hack : m.expectedAckOf with
    | some ackOf =>
      rw [hack] at hopcode hnumber
      obtain ⟨hopc, hof⟩ : ev.opc7 = OPC_ACK ∧ ev.ackOf.getD (-1) = ackOf := by simpa using hopcode
      cases hnumber
      have hack' : ev.ackOf = some number := by
        cases hof' : ev.ackOf with
        | none =>
          rw [hof'] at hof
          exact absurd (hack.trans (congrArg some hof.symm)) (h.request hsome)
        | some a =>
          rw [hof'] at hof
          exact congrArg some hof
      simp [ReplyEvent.keys, hfrom, hopc, hack']
    | none =>
      rw [hack] at hopcode hnumber
      have hopc : ev.opc7 = number := by
        rw [Option.none_or] at hnumber
        rw [hnumber] at hopcode
        simpa using hopcode
      have hne : ev.opc7 ≠ OPC_ACK := by
        intro heq
        rw [Option.none_or] at hnumber
        exact h.ackOfSomething hsome hack (by rw [hnumber, ← hopc, heq])
      have hmod : number % 128 = ev.opc7 := by
        rw [← hopc]
        exact Int.emod_emod_of_dvd _ (Int.dvd_refl 128)
      simp [ReplyEvent.keys, hfrom, hne, hmod]
  · cases hkey

end RaceLink.Pending
