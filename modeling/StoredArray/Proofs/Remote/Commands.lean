import StoredArray.Proofs.Remote.Serving
import StoredArray.Proofs.View.Calls

namespace StoredArray

namespace Remote

def Command.ofCall : Call → Command
  | .get key => .get key
  | .set key data => .set key data
  | .getRange key first last => .getRange key first last
  | .setRange key offset data => .setRange key offset data

/-- No client answers or refuses the call by itself: each sends the command for it. -/
def Sends (call : Call) : Prop :=
  ∀ client : Client, ∃ understand, client.plan call = .send (.ofCall call) understand

theorem sends_getRange (key : String) {first last : Nat} (ordered : first ≤ last)
    (addressable : last < 0x8000000000000000) : Sends (.getRange key first last) := by
  intro client
  exists client.asBytes
  rw [Client.plan, if_neg (Nat.not_lt.mpr ordered), if_pos addressable]
  rfl

theorem sends_setRange (key : String) {offset : Nat} (data : Bytes)
    (addressable : offset < 0x8000000000000000) : Sends (.setRange key offset data) := by
  intro client
  exists fun reply => (client.asNumber reply).map fun _ => ()
  rw [Client.plan, if_pos addressable]
  rfl

end Remote

open Remote

theorem View.Whole.sends {key : String} {call : Call} (whole : View.Whole key call) :
    Sends call := by
  cases call with
  | get other => exact fun client => ⟨client.asValue, rfl⟩
  | set other data => exact fun client => ⟨client.asDone, rfl⟩
  | getRange | setRange => exact whole.elim

theorem View.Contains.sends {view : View} (short : view.length < 0x8000000000000000) {call : Call}
    (inside : view.Contains call) : Sends call := by
  cases call with
  | get | set => exact inside.elim
  | getRange key first last =>
    obtain ⟨-, ordered, bound⟩ := inside
    exact sends_getRange key ordered (Nat.lt_trans bound short)
  | setRange key offset data =>
    obtain ⟨-, -, bound⟩ := inside
    exact sends_setRange key data (by omega)

def Fault.passed (faults : List Fault) : List Call → List Call
  | [] => []
  | call :: rest =>
    match strike call faults with
    | (some _, faults) => passed faults rest
    | (none, faults) => call :: passed faults rest

theorem Fault.passed_of_calm (calls : List Call) : passed [] calls = calls := by
  induction calls with
  | nil => rfl
  | cons call rest shorter => exact congrArg (call :: ·) shorter

/-- A store that passes calls on as commands: each call for which one is sent adds it to those that
have been received, and the store stays one that does so. -/
structure Store.Relays {σ : Type} (store : Store σ) (live : σ → Prop)
    (received : σ → List Command) : Prop where
  live_serve : ∀ call state, Sends call → live state → live (store.serve call state).2
  received_serve : ∀ call state, Sends call → live state →
    received (store.serve call state).2 = received state ++ [.ofCall call]

variable {σ α : Type}

/-- What an outcome adds to the commands received from a state on are those of its calls, in order,
but for the calls that fault rules keep from the store. -/
structure Outcome.Relayed (live : σ → Prop) (received : σ → List Command)
    (outcome : Outcome (List Fault × σ) α) (faults : List Fault) (state : σ) : Prop where
  live_state : live outcome.state.2
  received_eq : received outcome.state.2 =
    received state ++ (Fault.passed faults outcome.calls).map Command.ofCall

theorem Action.Orderly.relayed {store : Store σ} {live : σ → Prop} {received : σ → List Command}
    (relays : store.Relays live received) {own : Error → Prop} {action : Action α}
    (orderly : action.Orderly Sends own) (faults : List Fault) {state : σ} (alive : live state) :
    (action.run store.guarded (faults, state)).Relayed live received faults state := by
  induction action generalizing faults state with
  | done result => exact ⟨alive, (List.append_nil _).symm⟩
  | log record next shorter =>
    obtain ⟨after, commands⟩ := shorter orderly faults alive
    exact ⟨after, commands⟩
  | call c next shorter =>
    obtain ⟨sends, fails, goes⟩ := orderly
    cases struck : Fault.strike c faults with
    | mk error left =>
      cases error with
      | some cause =>
        -- The rule ends the action, and nothing of it has reached the store.
        have served : store.guarded.serve c (faults, state) = (.error cause, left, state) := by
          simp only [Store.guarded, struck]
        have kept : Fault.passed faults [c] = [] := by
          rw [Fault.passed, struck]
          rfl
        rw [run, served, fails cause]
        refine ⟨alive, ?_⟩
        change _ = _ ++ (Fault.passed faults [c]).map Command.ofCall
        rw [kept]
        exact (List.append_nil _).symm
      | none =>
        have served : store.guarded.serve c (faults, state) =
            ((store.serve c state).1, left, (store.serve c state).2) := by
          simp only [Store.guarded, struck]
        have rest : ((next (store.serve c state).1).run store.guarded
            (left, (store.serve c state).2)).Relayed live received left
            (store.serve c state).2 := by
          have after := relays.live_serve c state sends alive
          cases (store.serve c state).1 with
          | ok reply => exact shorter (.ok reply) (goes reply) left after
          | error cause =>
            rw [fails cause]
            exact ⟨after, (List.append_nil _).symm⟩
        rw [run, served]
        refine ⟨rest.live_state, rest.received_eq.trans ?_⟩
        rw [relays.received_serve c state sends alive, List.append_assoc]
        have passes (calls : List Call) :
            Fault.passed faults (c :: calls) = c :: Fault.passed left calls := by
          rw [Fault.passed, struck]
        exact congrArg (received state ++ List.map Command.ofCall ·) (passes _).symm

namespace Remote

def Reply.Short : Reply → Prop
  | .bulk data => data.length < 0x8000000000000000
  | _ => True

theorem Client.length_of_asValue (client : Client) {reply : Reply} (short : reply.Short)
    {value : Bytes} (understood : client.asValue reply = .ok (some value)) :
    value.length < 0x8000000000000000 := by
  cases client.bulk_of_asValue reply value understood
  exact short

end Remote

theorem Remote.memory_execute_ofCall (memory : Memory) (call : Call) :
    (execute memory (.ofCall call)).2 = (Memory.store.serve call memory).2 := by
  cases call with
  | get key =>
    simp only [Command.ofCall, execute, Memory.store]
    cases memory.get key <;> rfl
  | set key data =>
    simp only [Command.ofCall, execute, Memory.store]
    obtain ⟨result, after⟩ := memory.set key data
    cases result <;> rfl
  | getRange key first last => rfl
  | setRange key offset data =>
    simp only [Command.ofCall, execute, Memory.store]
    obtain ⟨result, after⟩ := memory.setRange key offset data
    cases result <;> rfl

theorem Remote.memory_execute_delete (memory : Memory) (key : String) :
    (execute memory (.delete key)).2 = (memory.remove key).2 := by
  simp only [execute]
  obtain ⟨found, after⟩ := memory.remove key
  cases found <;> rfl

theorem Memory.Within.execute {memory : Memory} {limit : Nat} (room : maxValueLength ≤ limit)
    (within : memory.Within limit) (command : Command) :
    (Remote.execute memory command).2.Within limit := by
  have called (call : Call) : (Remote.execute memory (.ofCall call)).2.Within limit := by
    rw [memory_execute_ofCall]
    exact within.serve room call
  cases command with
  | get key => exact called (.get key)
  | set key data => exact called (.set key data)
  | getRange key first last => exact called (.getRange key first last)
  | setRange key offset data => exact called (.setRange key offset data)
  | delete key =>
    rw [memory_execute_delete]
    exact within.remove key

namespace Remote.Server

structure Limited (server : Server) : Prop where
  within : server.memory.Within 0x7fffffffffffffff
  short : ∀ reply ∈ server.script, reply.Short

variable {server : Server}

theorem received_receive (server : Server) (command : Command) :
    (server.receive command).2.received = server.received ++ [command] := by
  unfold receive
  split <;> rfl

theorem Limited.receive (limited : server.Limited) (command : Command) :
    (server.receive command).2.Limited := by
  unfold Server.receive
  split
  · rename_i reply script queued
    refine ⟨limited.within, fun other member => limited.short other ?_⟩
    rw [queued]
    exact List.mem_cons_of_mem _ member
  · exact ⟨limited.within.execute (by decide) command, limited.short⟩

theorem Limited.follow {α : Type} (limited : server.Limited) (plan : Plan α) :
    (server.follow plan).2.Limited := by
  cases plan with
  | answer result => exact limited
  | send command understand => exact limited.receive command

theorem received_serve (client : Client) (server : Server) {call : Call} (sends : Sends call) :
    ((store client).serve call server).2.received = server.received ++ [.ofCall call] := by
  obtain ⟨understand, planned⟩ := sends client
  simp only [store, planned]
  exact received_receive server (.ofCall call)

theorem Limited.length_found (client : Client) (limited : server.Limited) {key : String}
    {value : Bytes} (found : ((store client).serve (.get key) server).1 = .ok (some value)) :
    value.length < 0x8000000000000000 := by
  have understood : client.asValue (server.receive (.get key)).1 = .ok (some value) := found
  apply client.length_of_asValue _ understood
  unfold Server.receive
  split
  · rename_i reply script queued
    apply limited.short
    rw [queued]
    exact List.mem_cons_self
  · simp only [execute]
    split
    · rename_i stored present
      have limit := limited.within key
      rw [Memory.bytes_of_get present] at limit
      exact Nat.lt_succ_of_le limit
    · trivial

end Remote.Server

end StoredArray
