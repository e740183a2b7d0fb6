import Mathlib.Data.Finset.Basic
import Mathlib.Data.Finset.Dedup
import RaceLink.Domain.Devices
import RaceLink.Library.Sections
import RaceLink.Pending.Registry
import RaceLink.Routing.Senders

/-! Polling the fleet (`services/status_service.py`).

A poll has a worker for each gateway. It takes down the devices of its gateway, asks them all at once, asks each
one again that was online and has not answered, and marks offline whoever is left. The readers of the gateways
hear the replies meanwhile: a reply is offered to the waits for it, and then written into the record of its
device. Polls may overlap, for a worker that takes too long is left behind. The routes stay as they are, and the
readings that a reply brings are not told here. -/
namespace RaceLink.Fleet.Polling
open Python Library Domain Routing Pending

/-! ### Who runs -/

/-- The worker of a gateway in a poll, and the group that is asked. -/
structure Worker where
  poll : Nat
  transport : Transport
  groupFilter : Int
deriving DecidableEq

/-- A wait of a worker: for everyone, or for the record at a place. -/
structure Wait where
  owner : Worker
  target : Option Nat
  matcher : PendingMatcher
deriving DecidableEq

/-- A GET_STATUS frame: to whom, and its group byte. -/
structure StatusFrame where
  transport : Transport
  recv3 : Bytes
  group : Int
deriving DecidableEq

/-- The ident that a transport puts on what it hears, once it has one. -/
def ident (t : Transport) : Option String := nonEmpty (some t.identMac)

/-! ### The devices, by their place -/

/-- The address of a record, in upper case. -/
def mac (h : Host) (i : Nat) : String := upper ((h.devices[i]?.map (·.addr)).getD "")

/-- `mac[-6:]`. -/
def lastSix (s : String) : String := String.ofList (s.toList.drop (s.length - 6))

/-- Where the record is that a lookup finds. -/
def position (h : Host) (addr : String) : Option Nat := (h.getDeviceFromAddress addr).map fun d => h.devices.idxOf d

/-- `_devices_on_transport`, and those of the group: `snapshot_targets`. -/
def snapshotTargets (h : Host) (w : Worker) : List Nat :=
  (List.range h.devices.length).filter fun i => h.devices[i]?.any fun d =>
    d.addr ≠ "" ∧ h.transportForDevice d.addr = some w.transport ∧ (w.groupFilter = 255 ∨ d.groupId = w.groupFilter)

/-! ### Replies -/

/-- The sender of a reply, as it is counted. -/
def responderOf (ev : ReplyEvent) : Option String := (ev.sender3.filter fun b => b.length = 3).map hexUpper

def respondersOf (replies : List ReplyEvent) : Finset String := (replies.filterMap responderOf).toFinset

/-- `mac in responders or mac[-6:] in responders`. -/
def Answers (responders : Finset String) (mac : String) : Prop := mac ∈ responders ∨ lastSix mac ∈ responders

instance (responders : Finset String) (mac : String) : Decidable (Answers responders mac) :=
  inferInstanceAs (Decidable (_ ∨ _))

/-- What a worker answers. -/
structure Report where
  updated : Nat := 0
  responders : Finset String := ∅
  retried : Nat := 0
  retriedResponders : Finset String := ∅
deriving DecidableEq

/-- A retry that went through, with what it got. -/
def Report.retry (r : Report) (replies : List ReplyEvent) : Report :=
  if respondersOf replies = ∅ then {r with retried := r.retried + 1}
  else
    { updated := r.updated + replies.length
      responders := r.responders ∪ respondersOf replies
      retried := r.retried + 1
      retriedResponders := r.retriedResponders ∪ respondersOf replies }

/-- What `get_status` answers of another worker. -/
def Report.add (total r : Report) : Report where
  updated := total.updated + r.updated
  responders := total.responders ∪ r.responders
  retried := total.retried + r.retried
  retriedResponders := total.retriedResponders ∪ r.retriedResponders

/-! ### The waits -/

/-- Who was online before and has not answered. -/
def missing (h : Host) (w : Worker) (online responders : Finset String) : List Nat :=
  (snapshotTargets h w).filter fun i => mac h i ≠ "" ∧ mac h i ∈ online ∧ ¬ Answers responders (mac h i)

/-- The field that tells a status reply. -/
def statusReplyField : String × Option EvValue := ("reply", some (.str "STATUS_REPLY"))

/-- The wait for everyone's replies. -/
def broadcastWait (h : Host) (w : Worker) : Wait where
  owner := w
  target := none
  matcher :=
    { senderFilter := none
      expectedOpcode := some OPC_STATUS
      expectedAckOf := none
      discriminator := some statusReplyField
      gatewayId := ident w.transport
      expectedCount := if 0 < (snapshotTargets h w).length then (snapshotTargets h w).length else 0x80000000 }

def broadcastFrame (w : Worker) : StatusFrame := ⟨w.transport, everyone, w.groupFilter % 256⟩

/-- `_get_status_unicast`, up to the wait: it may raise, or find no gateway to ask through. -/
def unicast (h : Host) (w : Worker) (i : Nat) : Except PyError (Option (Wait × StatusFrame)) :=
  match h.devices[i]? with
  | none => .ok none
  | some d => do
    let recv3 ← macLast3FromHex d.addr
    match (h.transportForDevice d.addr).or h.transport with
    | none => return none
    | some t =>
      if ident t = none then return none
      else return some (⟨w, some i, some [recv3], some OPC_STATUS, none, some statusReplyField, ident t, 1⟩,
        ⟨t, recv3, d.groupId % 256⟩)

/-! ### Places -/

/-- What a wait is followed by: that for everyone, with who was online before, or a retry, with those that are
left. -/
inductive After where
  | collected (online : Finset String)
  | retried (i : Nat) (rest : List Nat) (report : Report)
deriving DecidableEq

/-- Where a worker is. -/
inductive Job where
  | idle
  | looking (rest : List Nat) (online : Finset String)
  | waiting (wait : Wait) (after : After)
  | closed (wait : Wait) (after : After)
  | retrying (rest : List Nat) (report : Report)
  | marking (rest : List Nat) (report : Report)
  | done (report : Option Report)
deriving DecidableEq

/-- What a worker that is done answers, unless it raised. -/
def Job.report : Job → Option Report
  | .done report => report
  | _ => none

/-- Where a reader is with a reply, and the registries that are still to be offered it. -/
inductive Reading where
  | idle
  | heard (ev : ReplyEvent) (keys : List (Option String))
  | offered (ev : ReplyEvent) (key : Option String) (keys : List (Option String))
deriving DecidableEq

/-- Why the link of a device is written: it missed a retry, it never answered, its reply was heard, or what else
there is. -/
inductive Write where
  | missed (w : Worker)
  | silent (w : Worker)
  | reply (t : Transport) (online : Bool)
  | other (online : Bool)
deriving DecidableEq

def Write.online : Write → Bool
  | .missed _ => false
  | .silent _ => false
  | .reply _ online => online
  | .other online => online

/-- Which devices are online, the registries of the waits, the readers, and what was sent. For reasoning only:
why links were written, the replies that waits were left with, and those that were heard. -/
structure Desk where
  online : Nat → Bool
  registry : Option String → Registry Wait Transport := fun _ => .empty
  readers : Transport → Reading := fun _ => .idle
  sent : List StatusFrame := []
  writes : List (Nat × Write) := []
  taken : List (Wait × ReplyEvent) := []
  heard : List (Transport × ReplyEvent) := []

def Desk.write (s : Desk) (i : Nat) (v : Write) : Desk :=
  {s with online := Function.update s.online i v.online, writes := s.writes ++ [(i, v)]}

def Desk.call (s : Desk) (key : Option String) (c : Call Wait Transport) : Desk :=
  {s with registry := Function.update s.registry key ((s.registry key).next Wait.matcher c)}

/-- A wait is registered, and its frame sent. -/
def Desk.ask (s : Desk) (wait : Wait) (frame : StatusFrame) : Desk :=
  {s.call wait.matcher.gatewayId (.register wait) with sent := s.sent ++ [frame]}

/-- The replies that a wait has, once it is over. -/
def Desk.replies (s : Desk) (wait : Wait) : List ReplyEvent := (s.registry wait.matcher.gatewayId).collected wait

def Desk.take (s : Desk) (wait : Wait) : Desk := {s with taken := s.taken ++ (s.replies wait).map fun ev => (wait, ev)}

/-! ### Steps -/

/-- `_get_status_broadcast_on_transport`, with `send_and_match`. -/
def work (h : Host) (w : Worker) (s : Desk) : Job → Job × Desk
  | .idle => (.idle, s)
  | .looking (i :: rest) online =>
    (.looking rest (if s.online i = true ∧ mac h i ≠ "" then insert (mac h i) online else online), s)
  | .looking [] online => (.waiting (broadcastWait h w) (.collected online), s.ask (broadcastWait h w) (broadcastFrame w))
  | .waiting wait after => (.closed wait after, s.call wait.matcher.gatewayId (.cancel wait))
  | .closed wait (.collected online) =>
    let report : Report := { updated := (s.replies wait).length, responders := respondersOf (s.replies wait) }
    (.retrying (missing h w online report.responders) report, s.take wait)
  | .closed wait (.retried i rest report) =>
    (.retrying rest (report.retry (s.replies wait)),
      if s.replies wait = [] then (s.take wait).write i (.missed w) else s.take wait)
  | .retrying (i :: rest) report => match unicast h w i with
    | .error _ => (.retrying rest report, s)
    | .ok none => (.retrying rest {report with retried := report.retried + 1}, s)
    | .ok (some (wait, frame)) => (.waiting wait (.retried i rest report), s.ask wait frame)
  | .retrying [] report => (.marking (snapshotTargets h w) report, s)
  | .marking (i :: rest) report =>
    (.marking rest report,
      if mac h i ≠ "" ∧ ¬ Answers report.responders (mac h i) then s.write i (.silent w) else s)
  | .marking [] report => (.done (some report), s)
  | .done report => (.done report, s)

/-- A wait that raises: the worker is given up, or a retry is. -/
def raised : After → Job
  | .collected _ => .done none
  | .retried _ rest report => .retrying rest report

/-- A reply is no sign of life if it came through a gateway other than that of the device's network. -/
def welcome (h : Host) (ev : ReplyEvent) : Bool :=
  let heardBy := nonEmpty (ev.gatewayId.map upper)
  let expected := (h.transportForDevice (hexUpper (ev.sender3.getD []))).bind fun t => nonEmpty (some (upper t.identMac))
  heardBy.isNone || expected.isNone || heardBy == expected

/-- The STATUS_REPLY branch of `on_transport_event`. -/
def record (h : Host) (t : Transport) (ev : ReplyEvent) (s : Desk) : Desk :=
  match position h (hexUpper (ev.sender3.getD [])) with
  | none => s
  | some i => s.write i (.reply t (welcome h ev))

/-- `on_transport_event` for a status reply. -/
def read (h : Host) (t : Transport) (s : Desk) : Reading → Reading × Desk
  | .idle => (.idle, s)
  | .heard ev (key :: keys) => (.offered ev key keys, s.call key (.offer t ev))
  | .offered ev key keys => (.heard ev keys, s.call key (.deliver t))
  | .heard ev [] => (.idle, record h t ev s)

/-- A status reply, as the transport that hears it passes it on. -/
def statusReply (t : Transport) (sender3 : Bytes) : ReplyEvent :=
  ⟨ident t, some sender3, some OPC_STATUS, none, [("reply", .str "STATUS_REPLY")]⟩

/-- The registries that are offered what a transport hears: its own, and that of the waits for any. -/
def keysOf (t : Transport) : List (Option String) := (ident t).toList.map some ++ [none]

/-- What happens: a worker is started or goes on, its wait raises, a reply comes in, a reader goes on, or the
link of a device is written otherwise. -/
inductive Act where
  | poll (w : Worker)
  | next (w : Worker)
  | fail (w : Worker)
  | hear (t : Transport) (sender3 : Bytes)
  | read (t : Transport)
  | write (i : Nat) (online : Bool)

abbrev System := Threads Worker Job Desk

def step (h : Host) (s : System) : Act → System
  | .poll w => match s.pc w with
    | .idle => s.move w (.looking (snapshotTargets h w) ∅, s.shared)
    | _ => s
  | .next w => s.move w (work h w s.shared (s.pc w))
  | .fail w => match s.pc w with
    | .waiting wait after => s.move w (raised after, s.shared.call wait.matcher.gatewayId (.cancel wait))
    | _ => s
  | .hear t sender3 => match s.shared.readers t with
    | .idle =>
      if sender3.length = 3 then
        ⟨{s.shared with
          readers := Function.update s.shared.readers t (.heard (statusReply t sender3) (keysOf t))
          heard := s.shared.heard ++ [(t, statusReply t sender3)]}, s.pc⟩
      else s
    | _ => s
  | .read t =>
    let next := read h t s.shared (s.shared.readers t)
    ⟨{next.2 with readers := Function.update next.2.readers t next.1}, s.pc⟩
  | .write i online => ⟨s.shared.write i (.other online), s.pc⟩

def begun (online : Nat → Bool) : System := ⟨{ online }, fun _ => .idle⟩

def run (h : Host) (online : Nat → Bool) (acts : List Act) : System := acts.foldl (step h) (begun online)

/-- `get_status` for its workers, those that are not done in time left out. -/
def answer (s : System) (workers : List Worker) : Report :=
  (workers.filterMap fun w => (s.pc w).report).foldl Report.add {}

end RaceLink.Fleet.Polling
