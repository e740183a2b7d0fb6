import RaceLink.Library.Sections
import RaceLink.Library.Runs
import RaceLink.Python.Value

/-! The one task at a time of the web layer (`web/tasks.py`), and the events of the gateways that
count towards it (`web/sse.py`).

The task is one record behind a lock. The thread that runs it writes its progress and its end there,
a request may cancel it, and each event is counted with the value it read before. An update does not
say which task it is for. As long as a task is started and ended while no event is between its check
and its write, nothing raises once a task is done, and the next task waits for the thread of the last
one (`Coherent`), each task ends once and by its own thread, and every event counts. -/
namespace RaceLink.Web.Tasks
open Python Library

/-! ### The record -/

inductive TaskState where
  | running
  | done
  | error
deriving DecidableEq, Repr

/-- `self._task`, without its times. -/
structure Task where
  id : Nat
  name : String
  info : Json
  state : TaskState := .running
  rxReplies : Nat := 0
  rxWindowEvents : Nat := 0
  lastError : Option String := none
  result : Json := .null
  cancelRequested : Bool := false

/-- The arguments `update` is called with. -/
inductive Update where
  | info (value : Json)
  | done (result : Json)
  | error (lastError : String)
  | rxReplies (n : Nat)
  | rxWindowEvents (n : Nat)
  | lastError (text : String)

def Update.apply (t : Task) : Update → Task
  | .info value => {t with info := value}
  | .done result => {t with state := .done, result}
  | .error text => {t with state := .error, lastError := some text}
  | .rxReplies n => {t with rxReplies := n}
  | .rxWindowEvents n => {t with rxWindowEvents := n}
  | .lastError text => {t with lastError := some text}

/-! ### The threads -/

/-- Where the call of `start` that made a task is, and then the thread that runs it: what comes next.
A task is lost when that call raises before it starts the thread. -/
inductive Worker where
  | absent
  | announcing
  | spawning
  | lost
  | begun
  | running
  | finishing (result : Json)
  | finished
  | noting
  | refreshing
  | failing (error : String)
  | failed
  | gone

/-- `TaskManager`. For reasoning only: the threads that set a terminal state on the record of a task. -/
structure Fields where
  task : Option Task := none
  taskSeq : Nat := 0
  cancelEvent : Nat → Bool := fun _ => false
  worker : Nat → Worker := fun _ => .absent
  ends : Nat → List Nat := fun _ => []

/-- An event that may count towards a task. -/
inductive Event where
  | state (stateByte : Int)
  | error (text : String)
  | reply (reply : String)
deriving DecidableEq

/-- Where a thread is that handles an event or a request to cancel. For reasoning only: the task that
was running when the event was checked. -/
inductive Pc where
  | idle
  | checked (event : Event) (id : Nat)
  | writing (u : Update) (id : Nat)
  | signalling (id : Nat)

/-- `GATEWAY_STATE_RX_WINDOW`. -/
def gatewayStateRxWindow : Int := 2

def isRunning (f : Fields) : Prop := ∃ t, f.task = some t ∧ t.state = .running

/-- The part of `update` that holds the lock. -/
def update (f : Fields) (u : Update) : Fields := {f with task := f.task.map fun t => u.apply t}

/-- A terminal update by the thread that runs task `k`. -/
def conclude (f : Fields) (k : Nat) (u : Update) : Fields :=
  match f.task with
  | none => f
  | some t => {f with task := some (u.apply t), ends := Function.update f.ends t.id (f.ends t.id ++ [k])}

/-- The part of `start` that holds the lock. -/
def start (f : Fields) (name : String) (info : Option Json) : Fields :=
  let id := f.taskSeq + 1
  {f with
    task := some { id, name, info := (info.getD .null).orElse (.obj []) }
    taskSeq := id
    cancelEvent := Function.update f.cancelEvent id false
    worker := Function.update f.worker id .announcing}

/-- `start`, up to the end of the lock. -/
def requestStart (f : Fields) (name : String) (info : Option Json) : Fields :=
  match f.task with
  | none => start f name info
  | some t => if t.state = .running then f else start f name info

/-- `request_cancel`, up to the end of the lock. -/
def requestCancel (f : Fields) : Pc × Fields :=
  match f.task with
  | none => (.idle, f)
  | some t =>
    if t.state = .running then (.signalling t.id, {f with task := some {t with cancelRequested := true}})
    else (.idle, f)

/-- `on_transport_event`, up to its check that a task is running. -/
def receive (f : Fields) (event : Event) : Pc :=
  match f.task with
  | none => .idle
  | some t =>
    if t.state = .running then
      match event with
      | .state stateByte => if stateByte = gatewayStateRxWindow then .checked event t.id else .idle
      | .error text => .writing (.lastError text) t.id
      | .reply reply => if reply = "" then .idle else .checked event t.id
    else .idle

/-- What the snapshot of the task has an event write. -/
def counted (event : Event) (t : Task) : Option Update :=
  match event with
  | .state _ => some (.rxWindowEvents (t.rxWindowEvents + 1))
  | .error text => some (.lastError text)
  | .reply reply =>
    if (t.name = "discover" ∧ reply = "IDENTIFY_REPLY") ∨ (t.name = "status" ∧ reply = "STATUS_REPLY") then
      some (.rxReplies (t.rxReplies + 1))
    else none

/-- The next read or write of such a thread. What it broadcasts afterwards concerns nobody here. -/
def advance (f : Fields) : Pc → Pc × Fields
  | .idle => (.idle, f)
  | .checked event id =>
    (match f.task.bind (counted event) with
      | none => .idle
      | some u => .writing u id, f)
  | .writing u _ => (.idle, update f u)
  | .signalling id => (.idle, {f with cancelEvent := Function.update f.cancelEvent id true})

def Fields.setWorker (f : Fields) (k : Nat) (w : Worker) : Fields :=
  {f with worker := Function.update f.worker k w}

/-- The next step of the call and then of the thread of task `k`; `raises` is what the broadcaster, or
the master state, does. An exception after the last update ends the thread. -/
def work (f : Fields) (k : Nat) (raises : Option String) : Fields :=
  match f.worker k, raises with
  | .announcing, none => f.setWorker k .spawning
  | .announcing, some _ => f.setWorker k .lost
  | .spawning, _ => f.setWorker k .begun
  | .begun, none => f.setWorker k .running
  | .finishing result, _ => (conclude f k (.done result)).setWorker k .finished
  | .finished, none => f.setWorker k .noting
  | .noting, none => f.setWorker k .refreshing
  | .refreshing, none => f.setWorker k .gone
  | .begun, some e | .finished, some e | .noting, some e | .refreshing, some e => f.setWorker k (.failing e)
  | .failing e, _ => (conclude f k (.error e)).setWorker k .failed
  | .failed, _ => f.setWorker k .gone
  | .absent, _ | .lost, _ | .running, _ | .gone, _ => f

/-- `target_fn` of task `k` reports its progress, or is over with a result or an exception. -/
def progress (f : Fields) (k : Nat) (info : Json) : Fields :=
  match f.worker k with
  | .running => update f (.info info)
  | _ => f

def finish (f : Fields) (k : Nat) (outcome : Except String Json) : Fields :=
  match f.worker k, outcome with
  | .running, .ok result => f.setWorker k (.finishing result)
  | .running, .error e => f.setWorker k (.failing e)
  | _, _ => f

/-! ### Steps -/

variable {τ : Type}

/-- What happens. Threads of type `τ` handle events and requests; a task is numbered by its id. -/
inductive Act (τ : Type) where
  | start (name : String) (info : Option Json)
  | cancel (i : τ)
  | receive (i : τ) (event : Event)
  | next (i : τ)
  | work (k : Nat) (raises : Option String)
  | progress (k : Nat) (info : Json)
  | finish (k : Nat) (outcome : Except String Json)

def step [DecidableEq τ] (s : Threads τ Pc Fields) : Act τ → Threads τ Pc Fields
  | .start name info => ⟨requestStart s.shared name info, s.pc⟩
  | .cancel i => match s.pc i with
    | .idle => s.move i (requestCancel s.shared)
    | _ => s
  | .receive i event => match s.pc i with
    | .idle => s.move i (Tasks.receive s.shared event, s.shared)
    | _ => s
  | .next i => s.move i (advance s.shared (s.pc i))
  | .work k raises => ⟨Tasks.work s.shared k raises, s.pc⟩
  | .progress k info => ⟨Tasks.progress s.shared k info, s.pc⟩
  | .finish k outcome => ⟨Tasks.finish s.shared k outcome, s.pc⟩

/-- The task manager as it is constructed. -/
def constructed : Threads τ Pc Fields := ⟨{}, fun _ => .idle⟩

end RaceLink.Web.Tasks
