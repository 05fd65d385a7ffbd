import StoredArray.Store.Action

namespace StoredArray

def Event.seen : Event → Record ⊕ Call
  | .logged record => .inl record
  | .called exchange => .inr exchange.call

def Event.call? : Event → Option Call
  | .logged _ => none
  | .called exchange => some exchange.call

def Outcome.calls {σ α : Type} (outcome : Outcome σ α) : List Call :=
  outcome.events.filterMap Event.call?

def Error.through (lens : StoreError → StoreError) : Error → Error
  | .storeUnavailable cause => .storeUnavailable (lens cause)
  | error => error

@[simp]
theorem Error.through_id (error : Error) : error.through id = error := by
  cases error <;> rfl

/-- Two stores run in parallel on some calls if they answer them alike from related states, up to
what the lens shows of a failure, and stay related. -/
def Store.Parallel {σ τ : Type} (lens : StoreError → StoreError) (allowed : Call → Prop)
    (related : σ → τ → Prop) (store : Store σ) (other : Store τ) : Prop :=
  ∀ call state mirror, allowed call → related state mirror →
    (store.serve call state).1.mapError lens = (other.serve call mirror).1.mapError lens ∧
      related (store.serve call state).2 (other.serve call mirror).2

@[simp]
theorem mapError_error {ε δ α : Type} (f : ε → δ) (e : ε) :
    (Except.error e : Except ε α).mapError f = .error (f e) := rfl

theorem mapError_cases {ε δ α : Type} {f : ε → δ} {x y : Except ε α}
    (same : x.mapError f = y.mapError f) :
    (∃ a, x = .ok a ∧ y = .ok a) ∨ ∃ e d, x = .error e ∧ y = .error d ∧ f e = f d := by
  cases x with
  | ok a =>
    cases y with
    | ok b => exact .inl ⟨a, rfl, by rw [Except.ok.inj same]⟩
    | error d => cases same
  | error e =>
    cases y with
    | ok b => cases same
    | error d => exact .inr ⟨e, d, rfl, rfl, Except.error.inj same⟩

def Fault.Alike {σ τ : Type} (related : σ → τ → Prop) (state : List Fault × σ)
    (mirror : List Fault × τ) : Prop :=
  state.1 = mirror.1 ∧ related state.2 mirror.2

theorem Store.Parallel.guarded {σ τ : Type} {lens : StoreError → StoreError}
    {allowed : Call → Prop} {related : σ → τ → Prop} {store : Store σ} {other : Store τ}
    (parallel : store.Parallel lens allowed related other) :
    store.guarded.Parallel lens allowed (Fault.Alike related) other.guarded := by
  rintro call ⟨faults, state⟩ ⟨_, mirror⟩ permitted ⟨rfl, start⟩
  simp only [Store.guarded]
  obtain ⟨struck, left⟩ := Fault.strike call faults
  cases struck with
  | some error => exact ⟨rfl, rfl, start⟩
  | none =>
    have served := parallel call state mirror permitted start
    exact ⟨served.1, rfl, served.2⟩

namespace Action

/-- An action is orderly if it makes only calls that are allowed, ends with the failure of a call as
soon as one fails, and otherwise fails only with errors of its own. -/
def Orderly {α : Type} (allowed : Call → Prop) (own : Error → Prop) : Action α → Prop
  | done result => ∀ error, result = .error error → own error
  | log _ next => next.Orderly allowed own
  | call c next =>
    allowed c ∧ (∀ cause, next (.error cause) = fail (.storeUnavailable cause)) ∧
      ∀ reply, (next (.ok reply)).Orderly allowed own

namespace Orderly

variable {α β : Type} {allowed : Call → Prop} {own : Error → Prop}

theorem pure (a : α) : (Pure.pure a : Action α).Orderly allowed own := by
  intro error failed
  cases failed

theorem fail {error : Error} (mine : own error) :
    (Action.fail error : Action α).Orderly allowed own := by
  rintro _ ⟨⟩
  exact mine

theorem note (record : Record) : (Action.note record).Orderly allowed own := by
  change (Pure.pure () : Action Unit).Orderly allowed own
  exact Orderly.pure ()

theorem request (c : Call) (permitted : allowed c) : (Action.request c).Orderly allowed own :=
  ⟨permitted, fun _ => rfl, fun reply => Orderly.pure reply⟩

theorem bind {action : Action α} {f : α → Action β} (first : action.Orderly allowed own)
    (second : ∀ a, (f a).Orderly allowed own) : (action >>= f).Orderly allowed own := by
  induction action with
  | done result =>
    cases result with
    | ok a => exact second a
    | error error => exact Orderly.fail (first error rfl)
  | log record next shorter => exact shorter first
  | call c next shorter =>
    obtain ⟨permitted, fails, goes⟩ := first
    refine ⟨permitted, fun cause => ?_, fun reply => shorter (.ok reply) (goes reply)⟩
    change (next (.error cause)).bind f = _
    rw [fails cause]
    rfl

theorem done_bind {result : Except Error α} {f : α → Action β}
    (mine : ∀ error, result = .error error → own error)
    (goes : ∀ a, result = .ok a → (f a).Orderly allowed own) :
    (Action.done result >>= f).Orderly allowed own := by
  cases result with
  | ok a => exact goes a rfl
  | error error => exact Orderly.fail (mine error rfl)

theorem writeAll (key : String) (writes : List (Nat × Bytes))
    (permitted : ∀ write ∈ writes, allowed (.setRange key write.1 write.2)) :
    (Action.writeAll key writes).Orderly allowed own := by
  induction writes with
  | nil => exact Orderly.pure ()
  | cons write rest shorter =>
    have head := permitted write List.mem_cons_self
    have tail := shorter fun other member => permitted other (List.mem_cons_of_mem _ member)
    exact (Orderly.request _ head).bind fun _ => tail

theorem weaken {more : Call → Prop} {action : Action α} (orderly : action.Orderly allowed own)
    (wider : ∀ c, allowed c → more c) : action.Orderly more own := by
  induction action with
  | done result => exact orderly
  | log record next shorter => exact shorter orderly
  | call c next shorter =>
    obtain ⟨permitted, fails, goes⟩ := orderly
    exact ⟨wider c permitted, fails, fun reply => shorter (.ok reply) (goes reply)⟩

theorem calls_allowed {σ : Type} {action : Action α} (orderly : action.Orderly allowed own)
    (store : Store σ) (state : σ) : ∀ c ∈ (action.run store state).calls, allowed c := by
  induction action generalizing state with
  | done result =>
    intro c member
    cases member
  | log record next shorter => exact shorter orderly state
  | call c next shorter =>
    obtain ⟨permitted, fails, goes⟩ := orderly
    intro other member
    simp only [Outcome.calls, run, List.filterMap_cons, Event.call?] at member
    rcases List.mem_cons.mp member with rfl | later
    · exact permitted
    · cases answered : (store.serve c state).1 with
      | ok reply =>
        rw [answered] at later
        exact shorter (.ok reply) (goes reply) _ other later
      | error cause =>
        rw [answered, fails cause] at later
        cases later

theorem run_parallel {σ τ : Type} {lens : StoreError → StoreError} {related : σ → τ → Prop}
    {store : Store σ} {other : Store τ} (parallel : store.Parallel lens allowed related other)
    {action : Action α} (orderly : action.Orderly allowed own) {state : σ} {mirror : τ}
    (start : related state mirror) :
    (action.run store state).result.mapError (Error.through lens) =
        (action.run other mirror).result.mapError (Error.through lens) ∧
      (action.run store state).events.map Event.seen =
        (action.run other mirror).events.map Event.seen ∧
      related (action.run store state).state (action.run other mirror).state := by
  induction action generalizing state mirror with
  | done result => exact ⟨rfl, rfl, start⟩
  | log record next shorter =>
    obtain ⟨result, events, final⟩ := shorter orderly start
    refine ⟨result, ?_, final⟩
    simp only [run, List.map_cons, events]
  | call c next shorter =>
    obtain ⟨permitted, fails, goes⟩ := orderly
    obtain ⟨answer, onward⟩ := parallel c state mirror permitted start
    simp only [run, List.map_cons, Event.seen]
    rcases mapError_cases answer with ⟨reply, here, there⟩ | ⟨cause, reason, here, there, alike⟩
    · rw [here, there]
      obtain ⟨result, events, final⟩ := shorter (.ok reply) (goes reply) onward
      exact ⟨result, by rw [events], final⟩
    · rw [here, there, fails cause, fails reason]
      refine ⟨?_, rfl, onward⟩
      simp only [Action.fail, run, mapError_error, Error.through, alike]

end Orderly

end Action

end StoredArray
