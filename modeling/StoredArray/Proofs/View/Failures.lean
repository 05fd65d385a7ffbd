import StoredArray.Proofs.View.Calls

namespace StoredArray

variable {σ α : Type}

def Event.Answered : Event → Prop
  | .logged _ => True
  | .called exchange => ∃ reply, exchange.reply = .ok reply

/-- How an orderly run ends: every call was answered and no failure of the store is reported, or the
last thing that happened is a call that failed, and that failure is the result. -/
inductive Outcome.Ending (outcome : Outcome σ α) : Prop where
  | answered (answered : ∀ event ∈ outcome.events, event.Answered)
      (own : ∀ cause, outcome.result ≠ .error (.storeUnavailable cause))
  | failed (earlier : List Event) (exchange : Exchange) (cause : StoreError)
      (events : outcome.events = earlier ++ [.called exchange])
      (answered : ∀ event ∈ earlier, event.Answered) (reply : exchange.reply = .error cause)
      (result : outcome.result = .error (.storeUnavailable cause))

theorem Outcome.Ending.cons {outcome : Outcome σ α} (ending : outcome.Ending) {event : Event}
    (answered : event.Answered) :
    Outcome.Ending { outcome with events := event :: outcome.events } := by
  cases ending with
  | answered others own => exact .answered (List.forall_mem_cons.mpr ⟨answered, others⟩) own
  | failed earlier exchange cause events others reply result =>
    refine .failed (event :: earlier) exchange cause ?_ ?_ reply result
    · rw [events, List.cons_append]
    · exact List.forall_mem_cons.mpr ⟨answered, others⟩

theorem Action.Orderly.ending {allowed : Call → Prop} {own : Error → Prop} {action : Action α}
    (orderly : action.Orderly allowed own)
    (blameless : ∀ error, own error → error.kind ≠ .storeUnavailable) (store : Store σ)
    (state : σ) :
    (action.run store state).Ending := by
  induction action generalizing state with
  | done result =>
    refine .answered (List.forall_mem_nil _) fun cause failed => ?_
    exact blameless _ (orderly _ failed) rfl
  | log record next shorter => exact (shorter orderly state).cons trivial
  | call c next shorter =>
    obtain ⟨_, fails, goes⟩ := orderly
    rw [run]
    cases answered : (store.serve c state).1 with
    | ok reply => exact (shorter (.ok reply) (goes reply) _).cons ⟨reply, rfl⟩
    | error cause =>
      rw [fails cause]
      exact .failed [] ⟨c, .error cause⟩ cause rfl (List.forall_mem_nil _) rfl rfl

def Outcome.Fails (outcome : Outcome σ α) (exchange : Exchange) (cause : StoreError) : Prop :=
  .called exchange ∈ outcome.events ∧ exchange.reply = .error cause

/-- A failure of the store is reported once: it ends the run it happened in, after calls that were
all answered, and the error of the run tells it in its own words with its own causes. -/
structure Outcome.ReportsOnce (outcome : Outcome σ α) : Prop where
  unavailable_iff : (∃ error, outcome.result = .error error ∧ error.kind = .storeUnavailable) ↔
    ∃ exchange cause, outcome.Fails exchange cause
  stops : ∀ exchange cause, outcome.Fails exchange cause →
    ∃ earlier, outcome.events = earlier ++ [.called exchange] ∧
      ∀ before, .called before ∈ earlier → ∃ reply, before.reply = .ok reply
  tells : ∀ exchange cause, outcome.Fails exchange cause →
    ∃ error, outcome.result = .error error ∧ error.message = "Store unavailable: " ++ cause.text ∧
      error.causes = cause.text :: cause.causes

theorem Error.storeUnavailable_of_kind {error : Error} (kind : error.kind = .storeUnavailable) :
    ∃ cause, error = .storeUnavailable cause := by
  cases error with
  | storeUnavailable cause => exact ⟨cause, rfl⟩
  | _ => cases kind

theorem Event.Answered.reply_ne {exchange : Exchange}
    (answered : (Event.called exchange).Answered) (cause : StoreError) :
    exchange.reply ≠ .error cause := by
  obtain ⟨reply, ok⟩ := answered
  rw [ok]
  nofun

theorem Outcome.Ending.reportsOnce {outcome : Outcome σ α} (ending : outcome.Ending) :
    outcome.ReportsOnce := by
  cases ending with
  | answered answered own =>
    have never (exchange : Exchange) (cause : StoreError) : ¬ outcome.Fails exchange cause :=
      fun ⟨called, reply⟩ => (answered _ called).reply_ne cause reply
    refine ⟨⟨?_, ?_⟩, ?_, ?_⟩
    · rintro ⟨error, result, kind⟩
      obtain ⟨cause, rfl⟩ := Error.storeUnavailable_of_kind kind
      exact absurd result (own cause)
    · rintro ⟨exchange, cause, failed⟩
      exact absurd failed (never exchange cause)
    · exact fun exchange cause failed => absurd failed (never exchange cause)
    · exact fun exchange cause failed => absurd failed (never exchange cause)
  | failed earlier last cause events answered reply result =>
    have only (exchange : Exchange) (other : StoreError) (fails : outcome.Fails exchange other) :
        exchange = last ∧ other = cause := by
      obtain ⟨called, failed⟩ := fails
      rw [events] at called
      rcases List.mem_append.mp called with before | here
      · exact absurd failed ((answered _ before).reply_ne other)
      · cases List.mem_singleton.mp here
        exact ⟨rfl, Except.error.inj (failed.symm.trans reply)⟩
    have fails : outcome.Fails last cause := by
      refine ⟨?_, reply⟩
      rw [events]
      exact List.mem_append_right _ List.mem_cons_self
    refine ⟨⟨fun _ => ⟨last, cause, fails⟩, fun _ => ⟨_, result, rfl⟩⟩, ?_, ?_⟩
    · intro exchange other failed
      obtain ⟨rfl, rfl⟩ := only exchange other failed
      exact ⟨earlier, events, fun before member => answered _ member⟩
    · intro exchange other failed
      obtain ⟨rfl, rfl⟩ := only exchange other failed
      exact ⟨_, result, rfl, rfl⟩

namespace View

/-- Whatever a store does, opening a view and every operation on one report its failures once and
make no call after one that failed. -/
theorem failures_reported_once (store : Store σ) (state : σ) :
    (∀ allocator key length, ((openAt allocator key length).run store state).ReportsOnce) ∧
      ∀ (view : View) operation, ((view.perform operation).run store state).ReportsOnce := by
  constructor
  · intro allocator key length
    have blameless : ∀ error : Error, error.kind = .lengthTooLarge →
        error.kind ≠ .storeUnavailable := by
      intro error kind
      rw [kind]
      nofun
    exact ((openAt_orderly allocator key length).ending blameless store state).reportsOnce
  · intro view operation
    have blameless (error : Error) (refusal : error.Refusal) := refusal.1
    exact ((view.perform_orderly operation).ending blameless store state).reportsOnce

end View

end StoredArray
