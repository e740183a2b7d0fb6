import RaceLink.Library.Publishing
import RaceLink.Web.Masters
import RaceLink.Web.Tasks

/-! The event stream of the web layer (`web/sse.py`, `web/tasks.py`).

Each page that is open has a queue at the bridge. Whoever changes the state of a network's gateway, or the
record of the task, sends all of it to the queues there are then; a page that connects is added first and
is sent both after that. Readers of gateways, the task and requests do so at the same time, and no lock is
held from the change to the queues. The networks that a snapshot has rows for stay the same here. -/
namespace RaceLink.Web.Events
open Library
open Python (Json)

/-! ### The state of a network's gateway -/

/-- The keys of `MasterState._state`. -/
inductive Field where
  | state
  | stateByte
  | stateMetadataMs
  | lastEvent
  | lastEventTs
  | lastError
deriving DecidableEq

/-- `MasterState`. -/
abbrev Slot := Field → Json

def unknown : Slot
  | .state => .str "UNKNOWN"
  | .stateByte => .int Masters.gatewayStateUnknown
  | .stateMetadataMs => .int 0
  | .lastEvent => .null
  | .lastEventTs => .float (.finite 0)
  | .lastError => .null

/-- The keyword arguments of `set`. -/
abbrev Updates := List (Field × Json)

/-- What `apply_gateway_state` calls `set` with. -/
def applyGatewayState (stateByte metadataMs : Int) (sourceEvent : Option String) : Updates :=
  let sb := stateByte % 256
  [(.state, .str (Masters.gatewayStateName sb)), (.stateByte, .int sb),
    (.stateMetadataMs, .int (if sb = Masters.gatewayStateRxWindow then metadataMs % 65536 else 0)),
    (.lastError, .null)] ++
  match sourceEvent with
    | none => []
    | some event => if event = "" then [] else [(.lastEvent, .str event)]

/-! ### The task -/

/-- The calls of `TaskManager` that change its record. -/
inductive TaskCall where
  | start (name : String) (info : Option Json)
  | update (u : Tasks.Update)
  | cancel

/-- What such a call does behind the lock, if it does anything. -/
def TaskCall.apply (tasks : Tasks.Fields) : TaskCall → Option Tasks.Fields
  | .start name info =>
    match tasks.task with
    | none => some (Tasks.start tasks name info)
    | some t => if t.state = .running then none else some (Tasks.start tasks name info)
  | .update u => tasks.task.map fun _ => Tasks.update tasks u
  | .cancel =>
    match tasks.task with
    | none => none
    | some t => if t.state = .running then some (Tasks.requestCancel tasks).2 else none

/-! ### The bridge -/

/-- What is put on a queue: the name of the event, and its payload. -/
inductive Message where
  | master (rows : List (String × Slot))
  | task (task : Option Tasks.Task)
  | refresh (what : List String)

variable {κ ω : Type}

/-- The slots of `MasterStateMap`, the task, the queues of `SSEBridge`, and all that was put on each. -/
structure Bridge (κ : Type) where
  slots : String → Slot := fun _ => unknown
  tasks : Tasks.Fields := {}
  clients : List κ := []
  queue : κ → List Message := fun _ => []

/-- Where a thread is. -/
inductive Pc (κ : Type) where
  | idle
  | setting (networkId : String) (left : Updates) (changed : Bool)
  | storing (networkId : String) (key : Field) (value : Json) (left : Updates) (changed : Bool)
  | stamped
  | reading (whom : Option κ) (rows : List (String × Slot)) (left : List String)
  | updated
  | taken (task : Option Tasks.Task)
  | refreshing (what : List String)
  | sending (message : Message) (left dead : List κ)
  | greeting (c : κ)
  | greeted (c : κ) (task : Option Tasks.Task)

/-- What happens. -/
inductive Act (κ ω : Type) where
  | set (p : ω) (networkId : String) (updates : Updates)
  | task (p : ω) (call : TaskCall)
  | refresh (p : ω) (what : List String)
  | connect (p : ω) (c : κ)
  | next (p : ω) (now : Json)
  | fail (p : ω)
  | disconnect (c : κ)

/-- In the beginning no page is open, and nobody does anything. -/
def begun : Threads ω (Pc κ) (Bridge κ) := ⟨{}, fun _ => .idle⟩

variable [DecidableEq κ] [DecidableEq ω]

namespace Bridge

def store (f : Bridge κ) (networkId : String) (key : Field) (value : Json) : Bridge κ :=
  {f with slots := Function.update f.slots networkId (Function.update (f.slots networkId) key value)}

def put (f : Bridge κ) (c : κ) (message : Message) : Bridge κ :=
  {f with queue := Function.update f.queue c (f.queue c ++ [message])}

/-- A new queue. -/
def add (f : Bridge κ) (c : κ) : Bridge κ :=
  {f with clients := f.clients.insert c, queue := Function.update f.queue c []}

def discard (f : Bridge κ) (gone : List κ) : Bridge κ := {f with clients := f.clients.filter fun c => c ∉ gone}

end Bridge

/-- The next read or write of a thread, at a time. -/
def advance (networks : List String) (f : Bridge κ) (now : Json) : Pc κ → Pc κ × Bridge κ
  | .idle => (.idle, f)
  -- `set`: each value that differs is stored, and then the time
  | .setting _ [] false => (.idle, f)
  | .setting networkId [] true => (.stamped, f.store networkId .lastEventTs now)
  | .setting networkId ((key, value) :: left) changed =>
    if f.slots networkId key = value then (.setting networkId left changed, f)
    else (.storing networkId key value left changed, f)
  | .storing networkId key value left _ => (.setting networkId left true, f.store networkId key value)
  -- `snapshot`, a row at a time
  | .stamped => (.reading none [] networks, f)
  | .reading whom rows (networkId :: left) => (.reading whom (rows ++ [(networkId, f.slots networkId)]) left, f)
  | .reading none rows [] => (.sending (.master rows) f.clients [], f)
  | .updated => (.taken f.tasks.task, f)
  -- `broadcast`
  | .taken task => (.sending (.task task) f.clients [], f)
  | .refreshing what => (.sending (.refresh what) f.clients [], f)
  | .sending message (c :: left) dead => (.sending message left dead, f.put c message)
  | .sending _ [] dead => (.idle, f.discard dead)
  -- `api_events`, for a queue that was added
  | .reading (some c) rows [] => (.greeting c, f.put c (.master rows))
  | .greeting c => (.greeted c f.tasks.task, f)
  | .greeted c task => (.idle, f.put c (.task task))

def step (networks : List String) (s : Threads ω (Pc κ) (Bridge κ)) : Act κ ω → Threads ω (Pc κ) (Bridge κ)
  | .set p networkId updates => match s.pc p with
    | .idle => s.move p (.setting networkId updates false, s.shared)
    | _ => s
  | .task p call => match s.pc p, call.apply s.shared.tasks with
    | .idle, some tasks => s.move p (.updated, {s.shared with tasks})
    | _, _ => s
  | .refresh p what => match s.pc p with
    | .idle => s.move p (.refreshing what, s.shared)
    | _ => s
  | .connect p c => match s.pc p with
    | .idle => s.move p (.reading (some c) [] networks, s.shared.add c)
    | _ => s
  | .next p now => s.move p (advance networks s.shared now (s.pc p))
  | .fail p => match s.pc p with
    | .sending message (c :: left) dead => s.move p (.sending message left (c :: dead), s.shared)
    | _ => s
  | .disconnect c => ⟨s.shared.discard [c], s.pc⟩

def run (networks : List String) (acts : List (Act κ ω)) : Threads ω (Pc κ) (Bridge κ) :=
  acts.foldl (step networks) begun

/-- Nobody is between a change and the queues. -/
def Done (s : Threads ω (Pc κ) (Bridge κ)) : Prop := ∀ p, s.pc p = .idle

end RaceLink.Web.Events
