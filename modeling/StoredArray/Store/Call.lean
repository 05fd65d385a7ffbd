import StoredArray.Error

namespace StoredArray

abbrev Bytes := List UInt8

/-- Lets `skip` items pass, keeps the next one, and so on with `stride - 1` items between. -/
def keepEvery (stride : Nat) : Nat → List α → List α
  | _, [] => []
  | 0, item :: rest => item :: keepEvery stride (stride - 1) rest
  | skip + 1, _ :: rest => keepEvery stride skip rest

def everyNth (stride : Nat) (items : List α) : List α :=
  keepEvery stride 0 items

def Bytes.padTo (value : Bytes) (length : Nat) : Bytes :=
  value ++ List.replicate (length - value.length) 0

def Bytes.overwrite (value : Bytes) (offset : Nat) (data : Bytes) : Bytes :=
  value.take offset ++ data ++ value.drop (offset + data.length)

@[simp, grind =]
theorem Bytes.length_padTo (value : Bytes) (length : Nat) :
    (value.padTo length).length = max value.length length := by
  simp only [padTo, List.length_append, List.length_replicate]
  omega

theorem Bytes.length_overwrite (value : Bytes) (offset : Nat) (data : Bytes)
    (fits : offset + data.length ≤ value.length) :
    (value.overwrite offset data).length = value.length := by
  simp only [overwrite, List.length_append, List.length_take, List.length_drop]
  omega

inductive Call where
  | get (key : String)
  | set (key : String) (data : Bytes)
  /-- Reads the bytes from position `first` to position `last`, both included. -/
  | getRange (key : String) (first last : Nat)
  | setRange (key : String) (offset : Nat) (data : Bytes)
  deriving DecidableEq

namespace Call

@[reducible]
def Reply : Call → Type
  | get _ => Option Bytes
  | set _ _ => Unit
  | getRange _ _ _ => Bytes
  | setRange _ _ _ => Unit

inductive Kind where
  | get
  | set
  | getRange
  | setRange
  deriving DecidableEq

def kind : Call → Kind
  | get _ => .get
  | set _ _ => .set
  | getRange _ _ _ => .getRange
  | setRange _ _ _ => .setRange

end Call

structure Store (σ : Type) where
  serve : (call : Call) → σ → Except StoreError call.Reply × σ

structure Exchange where
  call : Call
  reply : Except StoreError call.Reply

structure Fault where
  on : Option Call.Kind
  after : Nat
  error : StoreError

namespace Fault

def concerns (fault : Fault) (call : Call) : Bool :=
  match fault.on with
  | none => true
  | some kind => kind = call.kind

/-- Looks at the rules in order. Each rule that the call concerns counts it, and the first one with
nothing left to count fails the call. -/
def strike (call : Call) : List Fault → Option StoreError × List Fault
  | [] => (none, [])
  | fault :: rest =>
    if fault.concerns call then
      match fault.after with
      | 0 => (some fault.error, fault :: rest)
      | after + 1 =>
        let further := strike call rest
        (further.1, { fault with after } :: further.2)
    else
      let further := strike call rest
      (further.1, fault :: further.2)

end Fault

def Store.guarded (store : Store σ) : Store (List Fault × σ) where
  serve call state :=
    match Fault.strike call state.1 with
    | (some error, faults) => (.error error, faults, state.2)
    | (none, faults) =>
      let answer := store.serve call state.2
      (answer.1, faults, answer.2)

end StoredArray
