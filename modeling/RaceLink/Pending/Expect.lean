import RaceLink.Fleet.Identify
import RaceLink.Library.Runs
import RaceLink.Pending.Matcher
import RaceLink.Protocol.Rules
import RaceLink.Routing.Senders
import Mathlib.Logic.Function.Basic

/-! The replies that the host waits for on the side (`_pending_expect` of `controller.py`, with
`on_transport_tx`, `pending_try_match` and `pending_window_closed` of
`services/gateway_service.py`).

Whoever sends a request notes what is to answer it, in one slot per gateway, after the frame is
out. The thread that reads a gateway looks into the slot on a reply and when a window closes,
and marks the device online or offline. The senders and the readers take turns at the lock of
the slots: a step here is what happens between two turns. -/
namespace RaceLink.Pending
open Python Library Protocol Routing Domain Gateways Fleet

variable {ι γ : Type} [DecidableEq ι] [DecidableEq γ]

/-! ### The slots -/

/-- What `set_pending_expect` puts into a slot. A new dict is made for each request, whose name
stands for its identity. -/
structure Expect (ι : Type) where
  dev : String
  opcode7 : Int
  senderLast3 : String
  gatewayId : Option String
  request : ι
deriving DecidableEq, Repr

/-- `set_pending_expect`. -/
def setPendingExpect (pending : List (Expect ι)) (e : Expect ι) : List (Expect ι) := putKey (·.gatewayId) e pending

/-- `read_pending_expect`: without a gateway, the only slot answers for an empty one. -/
def readPendingExpect (pending : List (Expect ι)) (gatewayId : Option String) : Option (Expect ι) :=
  match findKey (·.gatewayId) gatewayId pending with
  | some e => some e
  | none => if gatewayId = none ∧ pending.length = 1 then pending.head? else none

/-- A slot is emptied. -/
def popSlot (pending : List (Expect ι)) (gatewayId : Option String) : List (Expect ι) :=
  pending.filter fun e => e.gatewayId ≠ gatewayId

/-- `clear_pending_expect_if`. -/
def clearPendingExpectIf (pending : List (Expect ι)) (expected : Expect ι) : List (Expect ι) :=
  if findKey (·.gatewayId) expected.gatewayId pending = some expected then popSlot pending expected.gatewayId
  else pending

/-- `clear_pending_expect`: without a gateway, every slot is emptied. -/
def clearPendingExpect (pending : List (Expect ι)) : Option String → List (Expect ι)
  | none => []
  | some gatewayId => popSlot pending (some gatewayId)

/-! ### Requests and replies -/

/-- A frame that is written, on a gateway. -/
structure Request (γ : Type) where
  gateway : γ
  opc : Int
  recv3 : Bytes

/-- The expectation that `on_transport_tx` makes of a frame, if it is a request to one device. -/
def expectationOf (fleet : State) (gatewayId : Option String) (opc : Int) (recv3 : Bytes) (i : ι) :
    Option (Expect ι) :=
  let opcode7 := opc % 128
  if recv3.length ≠ 3 ∨ recv3 = everyone then none
  else if (findRule opcode7).isNone then none
  else if requestDirection opcode7 ≠ DIR_M2N then none
  else if responsePolicy opcode7 = .none then none
  else (deviceAt fleet (hexUpper recv3)).map fun dev =>
    { dev := dev.addr
      opcode7
      senderLast3 := String.ofList ((upper dev.addr).toList.drop ((upper dev.addr).length - 6))
      gatewayId
      request := i }

/-- A reply is what an expectation waits for. -/
def Expect.answeredBy (e : Expect ι) (ev : ReplyEvent) : Bool :=
  let sender := (ev.sender3.map hexUpper).getD ""
  if sender = "" ∨ sender ≠ upper e.senderLast3 then false
  else
    match responsePolicy (e.opcode7 % 128) with
    | .ack => ev.opc.getD (-1) == OPC_ACK && ev.ackOf.getD (-2) == e.opcode7 % 128
    | .specific => ev.opc.getD (-1) == responseOpcode (e.opcode7 % 128)
    | .none => false

/-! ### The threads -/

/-- How far a request is. -/
inductive Sending where
  | idle
  | written
  | stamped
deriving DecidableEq, Repr

/-- Where the thread that reads a gateway stands: it has found a match, or that the window of an
expectation closed, or has yet to clear the slot. -/
inductive Reader (ι : Type) where
  | idle
  | matched (e : Expect ι) (ev : ReplyEvent)
  | closing (e : Expect ι)
  | clearing (e : Expect ι)
deriving DecidableEq, Repr

/-- The expectation that a reader deals with. -/
def Reader.expect : Reader ι → Option (Expect ι)
  | .idle => none
  | .matched e _ => some e
  | .closing e => some e
  | .clearing e => some e

/-- The slots, the fleet and the threads. For reasoning only: the replies that the gateway of a
request has handed over since that was written. -/
structure Slots (ι γ : Type) where
  pending : List (Expect ι)
  fleet : State
  sending : ι → Sending
  reader : γ → Reader ι
  heard : ι → List ReplyEvent

/-- What happens: a frame is written, its TX event comes, a gateway hands over a reply or its
state, its reader goes on, slots are emptied, and whatever else is done to the fleet. -/
inductive Act (ι γ : Type) where
  | write (i : ι)
  | transmitted (i : ι)
  | reply (g : γ) (ev : ReplyEvent)
  | gatewayState (g : γ) (stateByte : Int)
  | proceed (g : γ)
  | clear (gatewayId : Option String)
  | aside (fleet : State)

def GATEWAY_STATE_RX_WINDOW : Int := 2

/-- `mark_online` and `mark_offline`. -/
def mark (fleet : State) (addr : String) (online : Bool) : State :=
  {fleet with devices := updateKey (·.addr) addr (fun d => {d with linkOnline := online}) fleet.devices}

variable (request : ι → Request γ) (identMac : γ → Option String)

/-- The expectation of a request, once it is written. -/
def expectation (s : Slots ι γ) (i : ι) : Option (Expect ι) :=
  expectationOf s.fleet (identMac (request i).gateway) (request i).opc (request i).recv3 i

/-- A reply is noted for the requests of the gateway that are written. -/
def hearing (s : Slots ι γ) (g : γ) (ev : ReplyEvent) (i : ι) : List ReplyEvent :=
  if (request i).gateway = g ∧ s.sending i ≠ .idle then s.heard i ++ [ev] else s.heard i

/-- The reader of a gateway goes on. -/
def proceed (s : Slots ι γ) (g : γ) : Slots ι γ :=
  match s.reader g with
  | .idle => s
  | .matched e _ => {s with fleet := mark s.fleet e.dev true, reader := Function.update s.reader g (.clearing e)}
  | .closing e => {s with fleet := mark s.fleet e.dev false, reader := Function.update s.reader g (.clearing e)}
  | .clearing e =>
    {s with pending := clearPendingExpectIf s.pending e, reader := Function.update s.reader g .idle}

/-- `pending_try_match`, up to the mark. -/
def tryMatch (s : Slots ι γ) (g : γ) (ev : ReplyEvent) : Reader ι :=
  match readPendingExpect s.pending (identMac g) with
  | none => .idle
  | some e => if e.answeredBy ev then .matched e ev else .idle

/-- `pending_window_closed`, up to the mark. -/
def windowClosed (s : Slots ι γ) (g : γ) : Reader ι :=
  match readPendingExpect s.pending (identMac g) with
  | none => .idle
  | some e => .closing e

def step (s : Slots ι γ) : Act ι γ → Slots ι γ
  | .write i =>
    if s.sending i = .idle then
      {s with sending := Function.update s.sending i .written, heard := Function.update s.heard i []}
    else s
  | .transmitted i =>
    if s.sending i = .written then
      let s' := {s with sending := Function.update s.sending i .stamped}
      match expectation request identMac s i with
      | none => s'
      | some e => {s' with pending := setPendingExpect s.pending e}
    else s
  | .reply g ev =>
    if s.reader g = .idle ∧ ev.opc ≠ none then
      {s with heard := hearing request s g ev, reader := Function.update s.reader g (tryMatch identMac s g ev)}
    else s
  | .gatewayState g stateByte =>
    if s.reader g = .idle ∧ stateByte ≠ GATEWAY_STATE_RX_WINDOW then
      {s with reader := Function.update s.reader g (windowClosed identMac s g)}
    else s
  | .proceed g => proceed s g
  | .clear gatewayId => {s with pending := clearPendingExpect s.pending gatewayId}
  | .aside fleet => {s with fleet}

end RaceLink.Pending
