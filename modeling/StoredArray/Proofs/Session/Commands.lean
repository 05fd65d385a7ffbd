import StoredArray.Proofs.Remote.Commands
import StoredArray.Proofs.Session.InMemory

namespace StoredArray.Session

open Remote

def Report.calls (report : Report) : List Call :=
  report.events.filterMap Event.call?

def Turn.calls (turn : Turn) : List Call :=
  turn.events.filterMap Event.call?

def Step.OnServer : Step → Prop
  | .create _ => False
  | .script reply => reply.Short
  | _ => True

def Step.ThroughView : Step → Prop
  | .callStore .. | .remove .. => False
  | _ => True

namespace Pool

def Served (pool : Pool) : Prop :=
  ∃ client server, pool.backend 0 = .remote client server ∧ server.Limited

theorem served_put (pool : Pool) (client : Client) {server : Server} (limited : server.Limited) :
    (pool.put 0 (.remote client server)).Served :=
  ⟨client, server, by simp, limited⟩

theorem serve_of_remote {pool : Pool} {client : Client} {server : Server}
    (held : pool.backend 0 = .remote client server) (call : Call) :
    (Pool.store 0).serve call pool =
      (((Server.store client).serve call server).1,
        pool.put 0 (.remote client ((Server.store client).serve call server).2)) := by
  simp only [Pool.store, held, Backend.store]

theorem relays :
    (Pool.store 0).Relays Served fun pool => (pool.backend 0).received := by
  constructor
  · rintro call pool - ⟨client, server, held, limited⟩
    rw [serve_of_remote held]
    exact pool.served_put client (limited.follow (client.plan call))
  · rintro call pool sends ⟨client, server, held, limited⟩
    rw [serve_of_remote held]
    simpa [held, Backend.received] using server.received_serve client sends

theorem Served.length_found {pool : Pool} (served : pool.Served) (faults : List Fault)
    {key : String} {value : Bytes}
    (found : ((Pool.store 0).guarded.serve (.get key) (faults, pool)).1 = .ok (some value)) :
    value.length < 0x8000000000000000 := by
  obtain ⟨client, server, held, limited⟩ := served
  simp only [Store.guarded, serve_of_remote held] at found
  split at found
  · cases found
  · exact limited.length_found client found

end Pool

/-- All handles and all views lead to the server, and every view is short enough for it. -/
structure State.Served (state : State) : Prop where
  pool : state.pool.Served
  handles : ∀ (name : String) (home : Nat), state.handles[name]? = some home → home = 0
  views : ∀ (name : String) (mounted : Mounted), state.views[name]? = some mounted →
    mounted.home = 0 ∧ mounted.view.length < 0x8000000000000000

/-- What a turn adds to the commands received are those of its calls that reach the server, and the
client has sent a command for each of them. -/
structure Turn.Served (step : Step) (before : State) (turn : Turn) : Prop where
  state : turn.state.Served
  sends : ∀ call ∈ turn.calls, Sends call
  received : step.ThroughView → turn.state.origin.received =
    before.origin.received ++ (Fault.passed before.faults turn.calls).map Command.ofCall

namespace State.Served

variable {state : State} {taken : Step}

theorem quiet {after : State} (answer : Except Failure Answer) (served : after.Served)
    (same : taken.ThroughView → after.origin.received = state.origin.received) :
    (after.answer answer).Served taken state :=
  ⟨served, nofun, fun through => (same through).trans (List.append_nil _).symm⟩

theorem answer (served : state.Served) (answer : Except Failure Answer) :
    (state.answer answer).Served taken state :=
  quiet answer served fun _ => rfl

theorem act {α : Type} (served : state.Served) {own : Error → Prop} {action : Action α}
    (orderly : action.Orderly Sends own) :
    (state.act 0 action).state.Served ∧
      (∀ call ∈ (state.act 0 action).calls, Sends call) ∧
      (state.act 0 action).state.origin.received = state.origin.received ++
        (Fault.passed state.faults (state.act 0 action).calls).map Command.ofCall := by
  obtain ⟨pool, received⟩ := orderly.relayed Pool.relays state.faults served.pool
  have sends := orderly.calls_allowed (Pool.store 0).guarded (state.faults, state.pool)
  exact ⟨⟨pool, served.handles, served.views⟩, sends, received⟩

theorem perform (served : state.Served) {mounted : Mounted} (home : mounted.home = 0)
    (short : mounted.view.length < 0x8000000000000000) (operation : Operation) :
    (state.perform mounted operation).Served taken state := by
  have orderly := (mounted.view.perform_orderly operation).weaken fun _ inside =>
    View.Contains.sends short inside
  obtain ⟨after, sends, received⟩ := served.act orderly
  rw [State.perform, home]
  exact ⟨after, sends, fun _ => received⟩

theorem openView (allocator : Allocator) (served : state.Served) (name key : String)
    (length : Nat) : (state.openView allocator name key length 0).Served taken state := by
  have orderly := (View.openAt_orderly allocator key length).weaken fun _ => View.Whole.sends
  obtain ⟨after, sends, received⟩ := served.act orderly
  rw [State.openView]
  dsimp only
  split
  · rename_i view opened
    -- The length is that of a reply or of a reservation, and neither can be longer.
    have short : view.length < 0x8000000000000000 :=
      View.length_opened allocator _ _ key length
        (fun _ found => served.pool.length_found state.faults found) opened
    refine ⟨⟨after.pool, after.handles, fun other mounted found => ?_⟩, sends, fun _ => received⟩
    rw [Std.ExtTreeMap.getElem?_insert] at found
    split at found
    · cases found
      exact ⟨rfl, short⟩
    · exact after.views other mounted found
  · exact ⟨after, sends, fun _ => received⟩

theorem callStore (served : state.Served) (handle : String) (call : Call) :
    (state.callStore call 0).Served (.callStore handle call) state := by
  obtain ⟨client, server, held, limited⟩ := served.pool
  refine ⟨⟨?_, served.handles, served.views⟩, nofun, False.elim⟩
  simp only [State.callStore, Pool.serve_of_remote held]
  exact state.pool.served_put client (limited.follow (client.plan call))

theorem remove (served : state.Served) (handle key : String) :
    (state.remove key 0).Served (.remove handle key) state := by
  obtain ⟨client, server, held, limited⟩ := served.pool
  simp only [State.remove, held]
  refine quiet _ ⟨?_, served.handles, served.views⟩ False.elim
  exact state.pool.served_put client (limited.follow _)

theorem script (served : state.Served) {reply : Reply} (short : reply.Short) :
    (state.script reply).Served taken state := by
  obtain ⟨client, server, held, limited⟩ := served.pool
  have longer : { server with script := server.script ++ [reply] : Server }.Limited := by
    refine ⟨limited.within, fun other member => ?_⟩
    rcases List.mem_append.mp member with early | last
    · exact limited.short other early
    · rw [List.mem_singleton.mp last]
      exact short
  simp only [State.script, State.origin, held]
  refine quiet _ ⟨state.pool.served_put client longer, served.handles, served.views⟩ fun _ => ?_
  simp [State.origin, held, Backend.received]

theorem share (served : state.Served) (target : String) :
    ({ state with handles := state.handles.insert target 0 }.answer (.ok .nothing)).Served move
      state := by
  refine quiet _ ⟨served.pool, fun name home found => ?_, served.views⟩ fun _ => rfl
  rw [Std.ExtTreeMap.getElem?_insert] at found
  split at found
  · exact (Option.some.inj found).symm
  · exact served.handles name home found

theorem make (allocator : Allocator) (served : state.Served) {step : Step} {move : Move}
    (comes : step.Comes state.handles state.views move) (onServer : step.OnServer) :
    (state.make allocator move).Served step state := by
  cases comes with
  | unknownHandle | unknownView | unreadable | described | counted | tested | inspected =>
    exact served.answer _
  | performed _ found =>
    obtain ⟨home, short⟩ := served.views _ _ found
    exact served.perform home short _
  | opened found =>
    cases served.handles _ _ found
    exact served.openView allocator _ _ _
  | called found =>
    cases served.handles _ _ found
    exact served.callStore _ _
  | removed found =>
    cases served.handles _ _ found
    exact served.remove _ _
  | shared found =>
    cases served.handles _ _ found
    exact served.share _
  | created => exact onServer.elim
  | faulted | healed => exact quiet _ ⟨served.pool, served.handles, served.views⟩ fun _ => rfl
  | scripted => exact served.script onServer

theorem step (allocator : Allocator) (served : state.Served) (step : Step)
    (onServer : step.OnServer) : (state.step allocator step).Served step state :=
  served.make allocator (step.comes _ _) onServer

theorem run (allocators : Nat → Allocator) (served : state.Served) (steps : List Step)
    (onServer : ∀ step ∈ steps, step.OnServer) : (state.run allocators steps).2.Served := by
  induction steps generalizing allocators state with
  | nil => exact served
  | cons step rest shorter =>
    have turn := served.step (allocators 0) step (onServer step List.mem_cons_self)
    exact shorter _ turn.state fun later member => onServer later (List.mem_cons_of_mem _ member)

theorem start (client : Client) {server : Server} (limited : server.Limited) :
    (State.start (.remote client server)).Served := by
  refine ⟨⟨client, server, by simp, limited⟩, fun name home found => ?_,
    fun name mounted found => ?_⟩
  · obtain ⟨-, rfl⟩ : "main" = name ∧ 0 = home := by simpa using found
    rfl
  · simp at found

end State.Served

/-- Each call that a view makes is one command. Whatever a server holds, whatever replies are
scripted for it and whichever steps have been taken on it, the commands that it receives during a
step are those of the calls that fault rules let pass, one for each and in the same order, with the
keys, positions and bytes of these calls. The client has sent a command for every call: it never
answers one by itself and never refuses one. -/
theorem view_calls_are_commands (client : Client) (allocators : Nat → Allocator) (server : Server)
    (limited : server.Limited) (steps : List Step) (onServer : ∀ step ∈ steps, step.OnServer)
    (i : Nat) (step : Step) (taken : steps[i]? = some step) (through : step.ThroughView) :
    let start := State.start (.remote client server)
    let faults := (start.run allocators (steps.take i)).2.faults
    ∃ report, (start.run allocators steps).1[i]? = some report ∧
      report.commands = (Fault.passed faults report.calls).map Command.ofCall ∧
      (faults = [] → report.commands = report.calls.map Command.ofCall) ∧
      ∀ call ∈ report.calls, ∃ understand, client.plan call = .send (.ofCall call) understand := by
  intro start faults
  have served := (State.Served.start client limited).run allocators (steps.take i)
    fun earlier member => onServer earlier (List.mem_of_mem_take member)
  have turn := served.step (allocators i) step (onServer step (List.mem_of_getElem? taken))
  let before := (start.run allocators (steps.take i)).2
  let report := State.report before.origin.received.length (before.step (allocators i) step)
  have reported : (start.run allocators steps).1[i]? = some report := by
    rw [State.getElem?_run, taken]
    rfl
  have commands : report.commands = (Fault.passed faults report.calls).map Command.ofCall := by
    change List.drop _ _ = _
    rw [turn.received through, List.drop_left]
    rfl
  refine ⟨report, reported, commands, fun calm => ?_, fun call made => turn.sends call made client⟩
  rw [commands, calm, Fault.passed_of_calm]

theorem view_calls_are_commands_interrupted :
    let down : Fault := { on := none, after := 1, error := { text := "down", causes := [] } }
    let steps : List Step :=
      [.script (.bulk [1, 2, 3]), .openView "v" "main" "k" (some 3), .addFault down,
        .perform "v" (.setSlice { step := some (-2) } [7, 8])]
    let run := (State.start (.remote .standard .empty)).run (fun _ => .machine) steps
    Server.empty.Limited ∧ (∀ step ∈ steps, step.OnServer) ∧
      ∃ report, run.1[3]? = some report ∧
        report.calls = [.setRange "k" 0 [8], .setRange "k" 2 [7]] ∧
        report.commands = [.setRange "k" 0 [8]] ∧
        ∀ call ∈ report.calls, ∃ understand,
          Client.standard.plan call = .send (.ofCall call) understand := by
  intro down steps run
  have limited : Server.empty.Limited := ⟨Memory.Within.empty _, nofun⟩
  have onServer : ∀ step ∈ steps, step.OnServer := by
    simp [steps, Step.OnServer, Reply.Short]
  have passed : run.1[3]?.map (fun report => (report.calls, report.commands)) =
      some ([.setRange "k" 0 [8], .setRange "k" 2 [7]], [.setRange "k" 0 [8]]) := by
    decide +kernel
  obtain ⟨report, reported, -, -, sends⟩ :=
    view_calls_are_commands .standard (fun _ => .machine) .empty limited steps onServer 3 _ rfl
      trivial
  have seen : run.1[3]? = some report := reported
  rw [seen, Option.map_some, Option.some.injEq, Prod.mk.injEq] at passed
  exact ⟨limited, onServer, report, seen, passed.1, passed.2, sends⟩

end StoredArray.Session
