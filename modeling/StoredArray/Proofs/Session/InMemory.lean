import StoredArray.Proofs.Session.Interchange
import StoredArray.Proofs.View.Noninterference
import StoredArray.Proofs.View.Stored

namespace StoredArray

theorem Action.Orderly.anyCall {α : Type} {allowed : Call → Prop} {own : Error → Prop}
    {action : Action α} (orderly : action.Orderly allowed own) :
    action.Orderly (fun _ => True) own :=
  orderly.weaken fun _ _ => trivial

theorem Action.exec_keeps {σ α : Type} {store : Store σ} {kept : σ → Prop}
    (serves : ∀ call state, kept state → kept (store.serve call state).2) (action : Action α)
    {state : σ} (start : kept state) : kept (action.exec store state).2 := by
  induction action generalizing state with
  | done result => exact start
  | log record next shorter => exact shorter start
  | call c next shorter => exact shorter _ (serves c state start)

theorem Memory.Bounded.exec {α : Type} {memory : Memory} (bounded : memory.Bounded)
    (action : Action α) : (action.exec Memory.store memory).2.Bounded :=
  Action.exec_keeps (fun call _ kept => kept.serve call) action bounded

namespace Session

/-- No fault rule is set, one store is this memory, and the others are as they were before. -/
structure Pool.Holds (before : Pool) (home : Nat) (state : List Fault × Pool) (memory : Memory) :
    Prop where
  calm : state.1 = []
  held : state.2.backend home = .memory memory
  others : ∀ other, other ≠ home → state.2.backend other = before.backend other

theorem Pool.put_holds {before pool : Pool} {home : Nat} {memory : Memory}
    (holds : before.Holds home ([], pool) memory) (after : Memory) :
    before.Holds home ([], pool.put home (.memory after)) after := by
  refine ⟨rfl, ?_, fun other different => ?_⟩
  · simp
  · simpa [Ne.symm different] using holds.others other different

theorem Pool.holds_parallel (before : Pool) (home : Nat) :
    (Pool.store home).guarded.Parallel id (fun _ => True) (before.Holds home) Memory.store := by
  rintro call ⟨faults, pool⟩ memory _ holds
  obtain rfl : faults = [] := holds.calm
  have held : pool.backend home = .memory memory := holds.held
  simp only [Store.guarded, Fault.strike, Pool.store, held, Backend.store]
  exact ⟨trivial, Pool.put_holds holds _⟩

namespace State

variable {state : State} {home : Nat} {memory : Memory}

theorem act_memory {α : Type} {allowed : Call → Prop} {own : Error → Prop} {action : Action α}
    (orderly : action.Orderly allowed own) (calm : state.faults = [])
    (held : state.pool.backend home = .memory memory) :
    (state.act home action).result = (action.exec Memory.store memory).1 ∧
      state.pool.Holds home ((state.act home action).state.faults,
        (state.act home action).state.pool) (action.exec Memory.store memory).2 := by
  have start : state.pool.Holds home (state.faults, state.pool) memory :=
    ⟨calm, held, fun _ _ => rfl⟩
  obtain ⟨result, _, final⟩ :=
    orderly.anyCall.run_parallel (Pool.holds_parallel state.pool home) start
  rw [View.mapError_through_id, View.mapError_through_id] at result
  exact ⟨result, final⟩

end State

end Session

end StoredArray
