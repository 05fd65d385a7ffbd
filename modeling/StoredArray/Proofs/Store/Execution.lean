import StoredArray.Proofs.Store.Discipline

namespace StoredArray

variable {σ α β : Type}

def Event.exchange? : Event → Option Exchange
  | .logged _ => none
  | .called exchange => some exchange

def Outcome.Answered (outcome : Outcome σ α) : Prop :=
  ∀ exchange ∈ outcome.events.filterMap Event.exchange?, ∃ reply, exchange.reply = .ok reply

namespace Action

@[simp]
theorem done_ok_bind (a : α) (f : α → Action β) : (done (.ok a) >>= f) = f a := rfl

theorem run_note_bind (store : Store σ) (record : Record) (f : Unit → Action α) (state : σ) :
    (note record >>= f).run store state =
      let rest := (f ()).run store state
      { rest with events := .logged record :: rest.events } := rfl

theorem run_request_bind (store : Store σ) (c : Call) (f : c.Reply → Action α) (state : σ) :
    (request c >>= f).run store state =
      match (store.serve c state).1 with
      | .ok reply =>
        let rest := (f reply).run store (store.serve c state).2
        { rest with events := .called ⟨c, .ok reply⟩ :: rest.events }
      | .error cause =>
        { result := .error (.storeUnavailable cause)
          state := (store.serve c state).2
          events := [.called ⟨c, .error cause⟩] } := by
  change (call c fun reply => Action.bind _ f).run store state = _
  rw [run]
  cases (store.serve c state).1 <;> rfl

theorem run_bind_pure (store : Store σ) (action : Action α) (f : α → β) (state : σ) :
    (action >>= fun a => pure (f a)).run store state =
      let first := action.run store state
      { first with result := first.result.map f } := by
  rw [run_bind]
  dsimp only
  cases (action.run store state).result with
  | ok a => simp only [run_pure, Except.map, List.append_nil]
  | error error => rfl

def exec (action : Action α) (store : Store σ) (state : σ) : Except Error α × σ :=
  ((action.run store state).result, (action.run store state).state)

@[simp]
theorem exec_pure (store : Store σ) (a : α) (state : σ) :
    (pure a : Action α).exec store state = (.ok a, state) := rfl

@[simp]
theorem exec_bind (store : Store σ) (action : Action α) (f : α → Action β) (state : σ) :
    (action >>= f).exec store state =
      match action.exec store state with
      | (.ok a, next) => (f a).exec store next
      | (.error error, next) => (.error error, next) := by
  simp only [exec, run_bind]
  cases (action.run store state).result <;> rfl

@[simp]
theorem exec_note (store : Store σ) (record : Record) (state : σ) :
    (note record).exec store state = (.ok (), state) := rfl

theorem exec_request (store : Store σ) (c : Call) (state : σ) :
    (request c).exec store state =
      ((store.serve c state).1.mapError .storeUnavailable, (store.serve c state).2) := by
  simp only [exec, request, run]
  cases (store.serve c state).1 <;> rfl

end Action

end StoredArray
