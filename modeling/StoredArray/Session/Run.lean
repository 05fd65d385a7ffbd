import StoredArray.Session.Backend
import StoredArray.Session.Step

namespace StoredArray.Session

structure Mounted where
  home : Nat
  view : View

/-- What a step comes down to once its names have been looked up and its texts have been read. -/
inductive Move where
  | answer (answer : Except Failure Answer)
  | openView (name key : String) (length home : Nat)
  | perform (mounted : Mounted) (operation : Operation)
  | callStore (call : Call) (home : Nat)
  | remove (key : String) (home : Nat)
  | ask (question : Backend → Except Failure Answer) (home : Nat)
  | share (target : String) (home : Nat)
  | create (target : String)
  | addFault (fault : Fault)
  | heal
  | script (reply : Remote.Reply)

namespace Move

def ofHandle (handles : Std.ExtTreeMap String Nat) (handle : String) (move : Nat → Move) : Move :=
  match handles[handle]? with
  | some home => move home
  | none => .answer (.error (.unknown handle))

def ofView (views : Std.ExtTreeMap String Mounted) (name : String) (move : Mounted → Move) : Move :=
  match views[name]? with
  | some mounted => move mounted
  | none => .answer (.error (.unknown name))

def ofText (text : String) (move : Index → Move) : Move :=
  match Index.parse text with
  | .ok index => move index
  | .error error => .answer (.error (.view error))

end Move

namespace Backend

def tell (question : Memory → Answer) : Backend → Except Failure Answer
  | memory m => .ok (question m)
  | remote _ _ => .error .unsupported

def inspect : Backend → Except Failure Answer
  | memory _ => .error .unsupported
  | remote _ _ => .ok (.text "RangeRedis \x7b .. \x7d")

end Backend

def Step.move (handles : Std.ExtTreeMap String Nat) (views : Std.ExtTreeMap String Mounted) :
    Step → Move
  | openView name handle key length =>
    .ofHandle handles handle (.openView name key (length.getD View.defaultLength))
  | describe name => .ofView views name fun mounted => .answer (.ok (.view mounted.view))
  | perform name operation => .ofView views name fun mounted => .perform mounted operation
  | readText name text =>
    .ofView views name fun mounted => .ofText text fun index => .perform mounted (.read index)
  | writeText name text values =>
    .ofView views name fun mounted =>
      .ofText text fun index => .perform mounted (.write index values)
  | callStore handle call => .ofHandle handles handle (.callStore call)
  | remove handle key => .ofHandle handles handle (.remove key)
  | count handle => .ofHandle handles handle (.ask (Backend.tell fun memory => .count memory.size))
  | isEmpty handle =>
    .ofHandle handles handle (.ask (Backend.tell fun memory => .flag memory.isEmpty))
  | inspect handle => .ofHandle handles handle (.ask Backend.inspect)
  | share source target => .ofHandle handles source (.share target)
  | create target => .create target
  | addFault fault => .addFault fault
  | heal => .heal
  | script reply => .script reply

structure State where
  pool : Pool
  next : Nat
  handles : Std.ExtTreeMap String Nat
  views : Std.ExtTreeMap String Mounted
  faults : List Fault

structure Turn where
  answer : Except Failure Answer
  state : State
  events : List Event

structure Report where
  answer : Except Failure Answer
  events : List Event
  commands : List Remote.Command

namespace State

def start (backend : Backend) : State where
  pool := { backends := (∅ : Std.ExtTreeMap Nat Backend).insert 0 backend }
  next := 1
  handles := (∅ : Std.ExtTreeMap String Nat).insert "main" 0
  views := ∅
  faults := []

def origin (state : State) : Backend :=
  state.pool.backend 0

def value (state : State) (key : String) : Option Bytes :=
  state.origin.contents.get key

def answer (state : State) (answer : Except Failure Answer) : Turn :=
  { answer, state, events := [] }

def act (state : State) (home : Nat) (action : Action α) : Outcome State α :=
  let outcome := action.run (Pool.store home).guarded (state.faults, state.pool)
  { outcome with state := { state with faults := outcome.state.1, pool := outcome.state.2 } }

def perform (state : State) (mounted : Mounted) (operation : Operation) : Turn :=
  let outcome := state.act mounted.home (mounted.view.perform operation)
  let answer :=
    match outcome.result with
    | .ok (some value) => .ok (.value value)
    | .ok none => .ok .nothing
    | .error error => .error (.view error)
  { outcome with answer }

/-- Opens a view under a name. If that fails, an older view of that name stays. -/
def openView (state : State) (allocator : Allocator) (name key : String) (length home : Nat) :
    Turn :=
  let outcome := state.act home (View.openAt allocator key length)
  match outcome.result with
  | .ok view =>
    { answer := .ok (.opened view.length)
      state := { outcome.state with views := outcome.state.views.insert name { home, view } }
      events := outcome.events }
  | .error error => { outcome with answer := .error (.view error) }

def callStore (state : State) (call : Call) (home : Nat) : Turn :=
  let served := (Pool.store home).serve call state.pool
  let answer :=
    match served.1 with
    | .ok reply => .ok (.ofReply call reply)
    | .error error => .error (.store error)
  { answer, state := { state with pool := served.2 }, events := [] }

def remove (state : State) (key : String) (home : Nat) : Turn :=
  match state.pool.backend home with
  | .memory memory =>
    let removed := memory.remove key
    { state with pool := state.pool.put home (.memory removed.2) }.answer (.ok (.stored removed.1))
  | .remote client server =>
    let removed := server.remove client key
    let answer :=
      match removed.1 with
      | .ok present => .ok (.flag present)
      | .error cause => .error (.removal key cause)
    { state with pool := state.pool.put home (.remote client removed.2) }.answer answer

def script (state : State) (reply : Remote.Reply) : Turn :=
  match state.origin with
  | .memory _ => state.answer (.error .unsupported)
  | .remote client server =>
    let server := { server with script := server.script ++ [reply] }
    { state with pool := state.pool.put 0 (.remote client server) }.answer (.ok .nothing)

def make (allocator : Allocator) (state : State) : Move → Turn
  | .answer answer => state.answer answer
  | .openView name key length home => state.openView allocator name key length home
  | .perform mounted operation => state.perform mounted operation
  | .callStore call home => state.callStore call home
  | .remove key home => state.remove key home
  | .ask question home => state.answer (question (state.pool.backend home))
  | .share target home =>
    { state with handles := state.handles.insert target home }.answer (.ok .nothing)
  | .create target =>
    { state with
      handles := state.handles.insert target state.next
      next := state.next + 1 }.answer (.ok .nothing)
  | .addFault fault => { state with faults := state.faults ++ [fault] }.answer (.ok .nothing)
  | .heal => { state with faults := [] }.answer (.ok .nothing)
  | .script reply => state.script reply

def step (allocator : Allocator) (state : State) (step : Step) : Turn :=
  state.make allocator (step.move state.handles state.views)

def report (before : Nat) (turn : Turn) : Report where
  answer := turn.answer
  events := turn.events
  commands := turn.state.origin.received.drop before

/-- Takes steps one after the other. How much room there is may change from step to step. -/
def run (allocators : Nat → Allocator) (state : State) : List Step → List Report × State
  | [] => ([], state)
  | step :: rest =>
    let turn := state.step (allocators 0) step
    let further := turn.state.run (fun later => allocators (later + 1)) rest
    (report state.origin.received.length turn :: further.1, further.2)

end State

end StoredArray.Session
