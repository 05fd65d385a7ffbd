import StoredArray.Memory

namespace StoredArray.Store

variable {σ : Type}

def Serves (store : Store σ) (held : σ → Memory) (call : Call) (state : σ) : Prop :=
  (store.serve call state).1 = (Memory.store.serve call (held state)).1 ∧
    held (store.serve call state).2 = (Memory.store.serve call (held state)).2

def Refuses (store : Store σ) (held : σ → Memory) (cause : StoreError) (call : Call) (state : σ) :
    Prop :=
  (store.serve call state).1 = .error cause ∧ held (store.serve call state).2 = held state

def Backed (store : Store σ) (held : σ → Memory) : Prop :=
  ∀ call state, store.Serves held call state ∨ ∃ cause, store.Refuses held cause call state

/-- Made one after the other, the first `count` of the calls are served and the one after them is
refused. Nothing is said of any other call. -/
inductive Interrupts (store : Store σ) (held : σ → Memory) (cause : StoreError) :
    List Call → Nat → σ → Prop where
  | over (count : Nat) (state : σ) : Interrupts store held cause [] count state
  | refused {call : Call} {state : σ} (rest : List Call)
      (refuses : store.Refuses held cause call state) :
      Interrupts store held cause (call :: rest) 0 state
  | served {call : Call} {rest : List Call} {count : Nat} {state : σ}
      (serves : store.Serves held call state)
      (later : Interrupts store held cause rest count (store.serve call state).2) :
      Interrupts store held cause (call :: rest) (count + 1) state

theorem guarded_interrupts (fault : Fault) {calls : List Call}
    (concerned : ∀ call ∈ calls, fault.concerns call = true) (memory : Memory) :
    Memory.store.guarded.Interrupts Prod.snd fault.error calls fault.after ([fault], memory) := by
  obtain ⟨on, count, cause⟩ := fault
  induction calls generalizing count memory with
  | nil => exact .over _ _
  | cons call rest shorter =>
    obtain ⟨here, later⟩ := List.forall_mem_cons.mp concerned
    cases count with
    | zero =>
      apply Interrupts.refused
      simp [Refuses, Store.guarded, Fault.strike, here]
    | succ count =>
      have counted : Fault.concerns { on, after := count + 1, error := cause } call = true := here
      have served : Memory.store.guarded.serve call
          ([{ on, after := count + 1, error := cause }], memory) =
          ((Memory.store.serve call memory).1, [{ on, after := count, error := cause }],
            (Memory.store.serve call memory).2) := by
        simp only [Store.guarded, Fault.strike, counted, if_true]
      apply Interrupts.served
      · rw [Serves, served]
        exact ⟨rfl, rfl⟩
      · rw [served]
        exact shorter _ count later

theorem memory_backed : Memory.store.Backed id :=
  fun _ _ => .inl ⟨rfl, rfl⟩

variable {store : Store σ} {held : σ → Memory}

theorem Backed.guarded (backed : store.Backed held) :
    store.guarded.Backed fun state => held state.2 := by
  rintro call ⟨faults, state⟩
  simp only [Serves, Refuses, Store.guarded]
  obtain ⟨struck, left⟩ := Fault.strike call faults
  cases struck with
  | some error => exact .inr ⟨error, rfl, rfl⟩
  | none => exact backed call state

theorem Backed.get (backed : store.Backed held) (key : String) (state : σ) :
    held (store.serve (.get key) state).2 = held state ∧
      ∀ current, (store.serve (.get key) state).1 = .ok current →
        (held state).get key = current := by
  rcases backed (.get key) state with ⟨answered, kept⟩ | ⟨cause, refused, kept⟩
  · refine ⟨kept, fun current found => ?_⟩
    exact Except.ok.inj (answered.symm.trans found)
  · refine ⟨kept, fun current found => ?_⟩
    cases refused.symm.trans found

theorem Backed.set (backed : store.Backed held) (key : String) (data : Bytes) (state : σ) :
    ((store.serve (.set key data) state).1 = .ok () ∧
        held (store.serve (.set key data) state).2 = (held state).insert key data) ∨
      (∃ cause, (store.serve (.set key data) state).1 = .error cause) ∧
        held (store.serve (.set key data) state).2 = held state := by
  rcases backed (.set key data) state with ⟨answered, kept⟩ | ⟨cause, refused, kept⟩
  · simp only [Memory.store, Memory.set] at answered kept
    split at answered
    · rename_i short
      rw [if_pos short] at kept
      exact .inl ⟨answered, kept⟩
    · rename_i long
      rw [if_neg long] at kept
      exact .inr ⟨⟨_, answered⟩, kept⟩
  · exact .inr ⟨⟨cause, refused⟩, kept⟩

end StoredArray.Store
