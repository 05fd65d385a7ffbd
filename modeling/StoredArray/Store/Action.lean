import StoredArray.Slice.Span
import StoredArray.Store.Call

namespace StoredArray

inductive Level where
  | debug
  | trace
  deriving DecidableEq

inductive Record where
  | padding (key : String) (old new : Nat)
  | getByte (key : String) (position : Nat)
  | getSlice (key : String) (slice : Slice) (window : Window)
  | setByte (key : String) (position : Nat)
  | setSlice (key : String) (slice : Slice)
  | connected (url : String)
  deriving DecidableEq

namespace Record

def level : Record → Level
  | padding .. => .debug
  | connected .. => .debug
  | getByte .. => .trace
  | getSlice .. => .trace
  | setByte .. => .trace
  | setSlice .. => .trace

def text : Record → String
  | padding key old new =>
    "padding " ++ key ++ " from " ++ Decimal.text old ++ " to " ++ Decimal.text new ++ " bytes"
  | getByte key position => "get " ++ key ++ "[" ++ Decimal.text position ++ "]"
  | getSlice key slice window =>
    "get " ++ key ++ "[" ++ slice.text ++ "] as " ++ Decimal.text window.first ++ "..=" ++
      Decimal.text window.last
  | setByte key position => "set " ++ key ++ "[" ++ Decimal.text position ++ "]"
  | setSlice key slice => "set " ++ key ++ "[" ++ slice.text ++ "]"
  | connected url => "connected to " ++ url

end Record

inductive Action (α : Type) where
  | done (result : Except Error α)
  | log (record : Record) (next : Action α)
  | call (call : Call) (next : Except StoreError call.Reply → Action α)

inductive Event where
  | logged (record : Record)
  | called (exchange : Exchange)

structure Outcome (σ α : Type) where
  result : Except Error α
  state : σ
  events : List Event

namespace Action

def bind : Action α → (α → Action β) → Action β
  | done (.ok a), f => f a
  | done (.error e), _ => done (.error e)
  | log record next, f => log record (next.bind f)
  | call c next, f => call c fun reply => (next reply).bind f

instance : Monad Action where
  pure a := done (.ok a)
  bind := bind

def fail (error : Error) : Action α :=
  done (.error error)

def note (record : Record) : Action Unit :=
  log record (pure ())

/-- Makes a call. If it fails, the action ends at once with that failure and asks nothing more. -/
def request (c : Call) : Action c.Reply :=
  call c fun
    | .ok reply => pure reply
    | .error cause => fail (.storeUnavailable cause)

def writeAll (key : String) : List (Nat × Bytes) → Action Unit
  | [] => pure ()
  | (offset, data) :: rest => do
    request (.setRange key offset data)
    writeAll key rest

def run (store : Store σ) : Action α → σ → Outcome σ α
  | done result, state => { result, state, events := [] }
  | log record next, state =>
    let rest := next.run store state
    { rest with events := .logged record :: rest.events }
  | call c next, state =>
    let answer := store.serve c state
    let rest := (next answer.1).run store answer.2
    { rest with events := .called ⟨c, answer.1⟩ :: rest.events }

@[simp]
theorem pure_bind (a : α) (f : α → Action β) : (pure a >>= f) = f a := rfl

theorem bind_assoc (action : Action α) (f : α → Action β) (g : β → Action γ) :
    (action >>= f >>= g) = (action >>= fun a => f a >>= g) := by
  induction action with
  | done result => cases result <;> rfl
  | log record next step => exact congrArg (log record) step
  | call c next step => exact congrArg (call c) (funext step)

@[simp]
theorem run_pure (store : Store σ) (a : α) (state : σ) :
    (pure a : Action α).run store state = { result := .ok a, state, events := [] } := rfl

@[simp]
theorem run_fail (store : Store σ) (error : Error) (state : σ) :
    (fail error : Action α).run store state = { result := .error error, state, events := [] } := rfl

theorem run_bind (store : Store σ) (action : Action α) (f : α → Action β) (state : σ) :
    (action >>= f).run store state =
      let first := action.run store state
      match first.result with
      | .ok a =>
        let second := (f a).run store first.state
        { second with events := first.events ++ second.events }
      | .error e => { result := .error e, state := first.state, events := first.events } := by
  induction action generalizing state with
  | done result => cases result <;> rfl
  | log record next step =>
    change (log record (next >>= f)).run store state = _
    simp only [run, step]
    cases (next.run store state).result <;> rfl
  | call c next step =>
    change (call c fun reply => next reply >>= f).run store state = _
    simp only [run, step]
    cases ((next (store.serve c state).1).run store (store.serve c state).2).result <;> rfl

end Action

end StoredArray
